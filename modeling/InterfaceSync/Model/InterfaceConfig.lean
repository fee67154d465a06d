import InterfaceSync.Json.Value

/-! The configuration of one network interface. Its schema belongs to whoever edits it, so it is
held as a whole JSON value. It is never `null`: that stands for the empty configuration. -/

namespace InterfaceSync

/-- An opaque token that the host hands out. It is never normalised: `eth0` and `ETH0` are
different interfaces. -/
abbrev Ifname := String

structure InterfaceConfig where
  value : Json
  notNull : value.isNull = false

namespace InterfaceConfig

/-- The configuration shown for an interface with nothing stored. -/
def empty : InterfaceConfig := ⟨.object [], rfl⟩

instance : Inhabited InterfaceConfig := ⟨empty⟩

/-- The configuration that a value denotes. -/
def ofJson (value : Json) : InterfaceConfig :=
  if h : value.isNull = false then ⟨value, h⟩ else empty

theorem ofJson_value (value : Json) :
    (ofJson value).value = if value.isNull then .object [] else value := by
  unfold ofJson
  split
  next notNull => simp [notNull]
  next null => simp [null, empty]

/-- Whether the configuration is the empty object, and nothing else that is empty. -/
def isEmpty (config : InterfaceConfig) : Bool :=
  match config.value with
  | .object [] => true
  | _ => false

def same (first second : InterfaceConfig) : Bool :=
  first.value.same second.value

def field? (config : InterfaceConfig) (field : String) : Option Json :=
  config.value.member? field

def fieldCount (config : InterfaceConfig) : Nat :=
  match config.value with
  | .object members => members.length
  | _ => 0

end InterfaceConfig

end InterfaceSync
