import DisplayMux.Tv.Domain

/-! The messages of the display's control protocol, as decoded JSON values: what is
sent, and how answers and foreground updates are read. -/
namespace DisplayMux.Ssap

open Tv (Host HostMap)

/-- A JSON value. A number is kept as its text, which nothing here looks into; the
fields of an object stand in the order of their names. -/
inductive Value where
  | null
  | bool (b : Bool)
  | number (text : String)
  | string (s : String)
  | array (items : List Value)
  | object (fields : List (String × Value))
  deriving Repr

open Value

namespace Value

def get : Value → String → Option Value
  | .object fields, name => fields.lookup name
  | _, _ => none

def asStr : Value → Option String
  | .string s => some s
  | _ => none

def asBool : Value → Option Bool
  | .bool b => some b
  | _ => none

def asArray : Value → Option (List Value)
  | .array items => some items
  | _ => none

def hexDigit (n : Nat) : Char := "0123456789abcdef".toList.getD n '0'

def escape : Char → String
  | '"' => "\\\""
  | '\\' => "\\\\"
  | '\n' => "\\n"
  | '\r' => "\\r"
  | '\t' => "\\t"
  | c =>
    if c.toNat = 8 then "\\b"
    else if c.toNat = 12 then "\\f"
    else if c.toNat < 32 then "\\u00" ++ String.ofList [hexDigit (c.toNat / 16), hexDigit (c.toNat % 16)]
    else c.toString

def quote (s : String) : String := "\"" ++ String.join (s.toList.map escape) ++ "\""

mutual

def render : Value → String
  | .null => "null"
  | .bool b => if b then "true" else "false"
  | .number text => text
  | .string s => quote s
  | .array items => "[" ++ ",".intercalate (renderItems items) ++ "]"
  | .object fields => "\x7b" ++ ",".intercalate (renderFields fields) ++ "\x7d"

def renderItems : List Value → List String
  | [] => []
  | item :: rest => item.render :: renderItems rest

def renderFields : List (String × Value) → List String
  | [] => []
  | (name, value) :: rest => (quote name ++ ":" ++ value.render) :: renderFields rest

end

end Value

inductive CodecError where
  | missingPayload
  | missingField (name : String)
  | command (text : String)
  | unexpectedRegistration (text : String)
  deriving DecidableEq, Repr

def getCurrentApp : String := "com.webos.applicationManager/getForegroundAppInfo"
def getInputs : String := "tv/getExternalInputList"
def setInput : String := "tv/switchInput"
def createAlert : String := "system.notifications/createAlert"
def closeAlert : String := "system.notifications/closeAlert"
def currentAppSubscriptionId : String := "subscribe-current-app"

def request (id uri : String) (payload : Value) : Value :=
  .object [("id", .string id), ("payload", payload), ("type", .string "request"),
    ("uri", .string ("ssap://" ++ uri))]

def responseId (message : Value) : Option String := (message.get "id").bind asStr

def successfulPayload (message : Value) : Except CodecError Value :=
  if (message.get "type").bind asStr = some "error" then
    .error (.command (((message.get "error").bind asStr).getD "unknown SSAP error"))
  else match message.get "payload" with
    | none => .error .missingPayload
    | some payload =>
      let success := ((payload.get "returnValue").bind asBool).or
        ((payload.get "subscribed").bind asBool)
      if success = some false then .error (.command message.render) else .ok payload

def entries {α : Type} (m : HostMap α) : List (Host × α) :=
  [Host.controller, .right, .left].filterMap fun host => (m.get host).map (host, ·)

theorem mem_entries {α : Type} {m : HostMap α} {host : Host} {a : α} :
    (host, a) ∈ entries m ↔ m.get host = some a := by
  simp only [entries, List.mem_filterMap, Option.map_eq_some_iff, Prod.mk.injEq]
  constructor
  · rintro ⟨_, -, _, got, rfl, rfl⟩
    exact got
  · intro got
    exact ⟨host, by cases host <;> simp, a, got, rfl, rfl⟩

def toAsciiLowercase (s : String) : List Char := s.toList.map Char.toLower

def eqIgnoreAsciiCase (a b : String) : Bool := toAsciiLowercase a == toAsciiLowercase b

def expectedApp (inputId : String) : String :=
  "com.webos.app." ++ String.ofList ((toAsciiLowercase inputId).filter (· ≠ '_'))

def names (inputId : String) : List String := [inputId, expectedApp inputId]

def parseCurrentInput (payload : Value) (inputs : HostMap String) : Except CodecError (Option Host) :=
  match (payload.get "appId").bind asStr with
  | none => .error (.missingField "appId")
  | some appId => .ok ((entries inputs).findSome? fun (host, inputId) =>
      if (names inputId).any (eqIgnoreAsciiCase appId) then some host else none)

def parseSignals (payload : Value) (inputs : HostMap String) : Except CodecError (HostMap Bool) :=
  match (payload.get "devices").bind asArray with
  | none => .error (.missingField "devices")
  | some devices => .ok (HostMap.collect ((entries inputs).map fun (host, inputId) =>
      let present := devices.findSome? fun device => do
        let id ← (device.get "id").bind asStr
        if eqIgnoreAsciiCase id inputId then
          some (((device.get "hdmiSignalExist").bind asBool).getD false)
        else none
      (host, present.getD false)))

/-- Two inputs share a name. -/
def confusable (first second : String) : Bool :=
  (names first).any fun name => (names second).any (eqIgnoreAsciiCase name)

theorem confusable_iff {first second : String} : confusable first second = true ↔
    ∃ appId, (names first).any (eqIgnoreAsciiCase appId) = true ∧
      (names second).any (eqIgnoreAsciiCase appId) = true := by
  simp only [confusable, List.any_eq_true, eqIgnoreAsciiCase, beq_iff_eq]
  constructor
  · rintro ⟨name, known, other, same⟩
    exact ⟨name, ⟨name, known, rfl⟩, other, same⟩
  · rintro ⟨appId, ⟨name, known, equal⟩, other, member, same⟩
    exact ⟨name, known, other, member, equal.symm.trans same⟩

section CurrentInput

variable {inputs : HostMap String} {payload : Value} {host other : Host} {inputId appId : String}

theorem reported_named (reads : (payload.get "appId").bind asStr = some appId)
    (reported : parseCurrentInput payload inputs = .ok (some host)) :
    ∃ inputId, inputs.get host = some inputId ∧ (names inputId).any (eqIgnoreAsciiCase appId) = true := by
  simp only [parseCurrentInput, reads, Except.ok.injEq] at reported
  obtain ⟨⟨found, inputId⟩, member, named⟩ := List.exists_of_findSome?_eq_some reported
  split at named
  · rename_i known
    cases named
    exact ⟨inputId, mem_entries.mp member, known⟩
  · cases named

theorem named_reported (reads : (payload.get "appId").bind asStr = some appId)
    (routed : inputs.get host = some inputId)
    (named : (names inputId).any (eqIgnoreAsciiCase appId) = true) :
    ∃ other, parseCurrentInput payload inputs = .ok (some other) := by
  simp only [parseCurrentInput, reads, Except.ok.injEq]
  refine Option.isSome_iff_exists.mp ?_
  rw [List.findSome?_isSome_iff]
  exact ⟨(host, inputId), mem_entries.mpr routed, by simp [named]⟩

end CurrentInput

end DisplayMux.Ssap
