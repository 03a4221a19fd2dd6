import PwdNow.Kit.Codec
import PwdNow.Kit.Js
import PwdNow.Kit.Uuid

/-!
# Client — folder and credential requests to the daemon

The folder and credential operations of `DaemonClient` (`web/src/utils/daemonClient.ts`), through
`POST /api/rpc` of `web/server.js`, the field types of `proto/vault.proto` and the handlers of
`daemon/src/ipc/grpc_server.rs`, and back.

The client writes an id as a typed array. `JSON.stringify` makes an object of it, and a `string`
field of the protocol takes its text, `[object Object]`. Coming back, an id is a string where the
client takes it for bytes, and JSON text is wrapped in a message that the client does not unwrap.
-/

namespace PwdNow.Client

open Kit Js Option

/-- The operations, by what they are about. A blob is the UTF-8 of `JSON.stringify(credential)`. -/
inductive DaemonOp where
  | listFolders
  | addFolder (name : String) (description iconSvg : Option String)
  | updateFolder (id : Uuid) (name : String) (description iconSvg : Option String)
  | deleteFolder (id : Uuid) (moveCredentialsTo : Option Uuid)
  | reorderFolders (orderedIds : List Uuid)
  | listCredentials (folderId : Option Uuid)
  | getCredential (id : Uuid)
  | addCredential (folderId : Option Uuid) (blob : Bytes)
  | updateCredential (id : Uuid) (folderId : Option Uuid) (blob : Bytes)
  | deleteCredential (id : Uuid)

open DaemonOp

/-- The ids that a request carries. -/
def DaemonOp.ids : DaemonOp → List Uuid
  | listFolders => []
  | addFolder _ _ _ => []
  | updateFolder id _ _ _ => [id]
  | deleteFolder id moveCredentialsTo => id :: moveCredentialsTo.toList
  | reorderFolders orderedIds => orderedIds
  | listCredentials folderId => folderId.toList
  | getCredential id => [id]
  | addCredential folderId _ => folderId.toList
  | updateCredential id folderId _ => id :: folderId.toList
  | deleteCredential id => [id]

inductive WireError where
  /-- `throw new Error(…)` in the client -/
  | thrown (message : String)
  /-- `JSON.parse` or an operation on `undefined` -/
  | exception
  /-- `Uuid::parse_str` refuses the text -/
  | parse (text : String)
  deriving DecidableEq

/-! ## The client -/

def uuidStringToBytes (s : String) : Except WireError Bytes :=
  match Uuid.ofHex (s.toList.filter (· ≠ '-')) with
  | some u => .ok u.bytes
  | none => .error (.thrown ("invalid uuid: " ++ s))

/-- `uuidOut`, of the text of an id. -/
def uuidOut (id : Uuid) : Except WireError Js := (uuidStringToBytes id.text).map .uint8Array

def uuidOutOptional : Option Uuid → Except WireError Js
  | none => .ok .null
  | some id => uuidOut id

/-- `s ?? null`. -/
def orNull : Option String → Js
  | none => .null
  | some s => .string s

/-- The payload of the request. -/
def DaemonOp.payload (token : String) : DaemonOp → Except WireError Js
  | listFolders => return .object [("session_token", .string token)]
  | addFolder name description iconSvg =>
    return .object [("session_token", .string token), ("name", .string name),
      ("description", orNull description), ("icon_svg", orNull iconSvg)]
  | updateFolder id name description iconSvg => do
    let id ← uuidOut id
    return .object [("session_token", .string token), ("id", id), ("name", .string name),
      ("description", orNull description), ("icon_svg", orNull iconSvg)]
  | deleteFolder id moveCredentialsTo => do
    let id ← uuidOut id
    let moveCredentialsTo ← uuidOutOptional moveCredentialsTo
    return .object [("session_token", .string token), ("id", id),
      ("move_credentials_to", moveCredentialsTo)]
  | reorderFolders orderedIds => do
    let orderedIds ← orderedIds.mapM uuidOut
    return .object [("session_token", .string token), ("ordered_ids", .array orderedIds)]
  | listCredentials folderId => do
    let folderId ← uuidOutOptional folderId
    return .object [("session_token", .string token), ("folder_id", folderId)]
  | getCredential id => do
    let id ← uuidOut id
    return .object [("session_token", .string token), ("id", id)]
  | addCredential folderId blob => do
    let folderId ← uuidOutOptional folderId
    return .object [("session_token", .string token), ("folder_id", folderId),
      ("blob", .ofBytes blob)]
  | updateCredential id folderId blob => do
    let id ← uuidOut id
    let folderId ← uuidOutOptional folderId
    return .object [("session_token", .string token), ("id", id), ("folder_id", folderId),
      ("blob", .ofBytes blob)]
  | deleteCredential id => do
    let id ← uuidOut id
    return .object [("session_token", .string token), ("id", id)]

/-! ## The bridge -/

def isNumber : Js → Bool
  | .number _ => true
  | _ => false

mutual

def convertArraysToBuffers : Js → Js
  | .array elements =>
    if elements.head?.any isNumber then .buffer (elements.map octet)
    else .array (convertElements elements)
  | .object fields => .object (convertFields fields)
  | v => v

def convertElements : List Js → List Js
  | [] => []
  | v :: rest => convertArraysToBuffers v :: convertElements rest

def convertFields : List (String × Js) → List (String × Js)
  | [] => []
  | (key, v) :: rest => (key, convertArraysToBuffers v) :: convertFields rest

end

mutual

def convertBuffersToArrays : Js → Js
  | .buffer bytes => .ofBytes bytes
  | .array elements => .array (unconvertElements elements)
  | .object fields => .object (unconvertFields fields)
  | v => v

def unconvertElements : List Js → List Js
  | [] => []
  | v :: rest => convertBuffersToArrays v :: unconvertElements rest

def unconvertFields : List (String × Js) → List (String × Js)
  | [] => []
  | (key, v) :: rest => (key, convertBuffersToArrays v) :: unconvertFields rest

end

/-! ## The fields of a message -/

variable (decode : Bytes → String) (base64 : String → Bytes)

/-- `optional string`: `null` is no value, any other value is its text. -/
def optionalString (message : Js) (key : String) : Option String :=
  match message.get key with
  | none => none
  | some .null => none
  | some v => some (v.text decode)

/-- `string`: the default is empty. -/
def stringField (message : Js) (key : String) : String :=
  (optionalString decode message key).getD ""

/-- `repeated string`. -/
def repeatedString (message : Js) (key : String) : Except WireError (List String) :=
  match message.get key with
  | none => .ok []
  | some .null => .ok []
  | some (.array elements) => .ok (elements.map (text decode))
  | some _ => .error (.thrown (key ++ ": array expected"))

/-- `bytes`: a string is Base64, anything else with a length is copied. -/
def bytesField (message : Js) (key : String) : Bytes :=
  match message.get key with
  | some (.string s) => base64 s
  | some (.array elements) => elements.map octet
  | some (.buffer bytes) => bytes
  | some (.uint8Array bytes) => bytes
  | _ => []

/-! ## The daemon -/

def parseId (text : String) : Except WireError Uuid :=
  match Uuid.parseStr text with
  | some u => .ok u
  | none => .error (.parse text)

/-- `.filter(|s| !s.is_empty()).map(parse_str).transpose()`. -/
def parseOptionalId (text : Option String) : Except WireError (Option Uuid) :=
  match text with
  | none => .ok none
  | some s => if s = "" then .ok none else (parseId s).map some

/-- What the handler of the operation's method makes of the message. -/
def DaemonOp.received (message : Js) : DaemonOp → Except WireError DaemonOp
  | listFolders => .ok .listFolders
  | addFolder _ _ _ =>
    .ok (.addFolder (stringField decode message "name")
      (optionalString decode message "description") (optionalString decode message "icon_svg"))
  | updateFolder _ _ _ _ => do
    let id ← parseId (stringField decode message "id")
    return .updateFolder id (stringField decode message "name")
      (optionalString decode message "description") (optionalString decode message "icon_svg")
  | deleteFolder _ _ => do
    let id ← parseId (stringField decode message "id")
    let moveCredentialsTo ← parseOptionalId (optionalString decode message "move_credentials_to")
    return .deleteFolder id moveCredentialsTo
  | reorderFolders _ => do
    let texts ← repeatedString decode message "ordered_ids"
    let orderedIds ← texts.mapM parseId
    return .reorderFolders orderedIds
  | listCredentials _ => do
    let folderId ← parseOptionalId (optionalString decode message "folder_id")
    return .listCredentials folderId
  | getCredential _ => do
    let id ← parseId (stringField decode message "id")
    return .getCredential id
  | addCredential _ _ => do
    let folderId ← parseOptionalId (optionalString decode message "folder_id")
    return .addCredential folderId (bytesField base64 message "blob")
  | updateCredential _ _ _ => do
    let id ← parseId (stringField decode message "id")
    let folderId ← parseOptionalId (optionalString decode message "folder_id")
    return .updateCredential id folderId (bytesField base64 message "blob")
  | deleteCredential _ => do
    let id ← parseId (stringField decode message "id")
    return .deleteCredential id

/-- The whole way: the session token and the operation that the handler receives. -/
def DaemonOp.deliver (token : String) (op : DaemonOp) : Except WireError (String × DaemonOp) := do
  let payload ← op.payload token
  let message := convertArraysToBuffers payload.json
  let received ← op.received decode base64 message
  return (stringField decode message "session_token", received)

/-! ## The way back -/

/-- What a handler answers: nothing, the id of what it made, or a JSON value. -/
inductive HandlerReply (V : Type) where
  | ok
  | created (id : Uuid)
  | data (value : V)

/-- What a call of the client returns. -/
inductive ClientValue (V : Type) where
  | nothing
  | id (s : String)
  | json (value : V)

variable {V : Type} (J : Codec V)

namespace HandlerReply

/-- The response message, as the bridge gets it. -/
def response : HandlerReply V → Js
  | ok => .object []
  | created id => .object [("id", .string id.text)]
  | data value => .object [("data", .buffer (J.stringify value))]

/-- What the call should return. -/
def value : HandlerReply V → ClientValue V
  | ok => .nothing
  | created id => .id id.text
  | data value => .json value

/-- The `data` of the bridge's answer, as the client gets it. -/
def answer (reply : HandlerReply V) : Option Js :=
  (object [("status", .string "Ok"),
    ("data", convertBuffersToArrays (reply.response J))]).json.get "data"

end HandlerReply

/-- The handler of the operation answers in this way. -/
def DaemonOp.Answers : DaemonOp → HandlerReply V → Prop
  | listFolders, .data _ => True
  | listCredentials _, .data _ => True
  | getCredential _, .data _ => True
  | addFolder _ _ _, .created _ => True
  | addCredential _ _, .created _ => True
  | updateFolder _ _ _ _, .ok => True
  | deleteFolder _ _, .ok => True
  | reorderFolders _, .ok => True
  | updateCredential _ _ _, .ok => True
  | deleteCredential _, .ok => True
  | _, _ => False

def uuidBytesToString (v : Option Js) : Except WireError String := do
  let bytes ← match v with
    | some (.uint8Array bytes) => .ok bytes
    | some (.array elements) => .ok (elements.map octet)
    | some v => (v.values.map (·.map octet)).elim (.error .exception) .ok
    | none => .error .exception
  match Block.ofBytes 16 bytes with
  | some u => return Uuid.text u
  | none => throw (.thrown ("invalid uuid bytes: " ++ toString bytes.length))

/-- `JSON.parse(new TextDecoder().decode(…))` of the bytes of `data`. -/
def rpcJson (data : Option Js) : Except WireError V :=
  match J.parse (data.elim [] octets) with
  | some value => .ok value
  | none => .error .exception

def DaemonOp.returned (reply : HandlerReply V) : DaemonOp → Except WireError (ClientValue V)
  | listFolders => (rpcJson J (reply.answer J)).map .json
  | listCredentials _ => (rpcJson J (reply.answer J)).map .json
  | getCredential _ => (rpcJson J (reply.answer J)).map .json
  | addFolder _ _ _ => (uuidBytesToString ((reply.answer J).bind (get "id"))).map .id
  | addCredential _ _ => (uuidBytesToString ((reply.answer J).bind (get "id"))).map .id
  | _ => .ok .nothing

/-! ## What becomes of each field -/

section Fields

variable {decode base64}

theorem get_object_map (f : Js → Js) (fields : List (String × Js)) (key : String) :
    (object (fields.map fun field => (field.1, f field.2))).get key =
      ((object fields).get key).map f := by
  simp only [Js.get, List.find?_map, map_map]
  rfl

theorem convertFields_jsonFields (fields : List (String × Js)) :
    convertFields (jsonFields fields) =
      fields.map fun field => (field.1, convertArraysToBuffers field.2.json) := by
  induction fields with
  | nil => rfl
  | cons field rest ih =>
    obtain ⟨key, v⟩ := field
    rw [jsonFields, convertFields, ih]
    rfl

theorem get_message (fields : List (String × Js)) (key : String) :
    (convertArraysToBuffers (object fields).json).get key =
      ((object fields).get key).map fun v => convertArraysToBuffers v.json := by
  rw [json, convertArraysToBuffers, convertFields_jsonFields]
  exact get_object_map (fun v => convertArraysToBuffers v.json) fields key

variable {fields : List (String × Js)} {key : String} {s : String} {bytes : Bytes}

theorem optionalString_string (h : (object fields).get key = some (.string s)) :
    optionalString decode (convertArraysToBuffers (object fields).json) key = some s := by
  rw [optionalString, get_message, h]
  rfl

theorem optionalString_null (h : (object fields).get key = some .null) :
    optionalString decode (convertArraysToBuffers (object fields).json) key = none := by
  rw [optionalString, get_message, h]
  rfl

theorem optionalString_orNull {s : Option String} (h : (object fields).get key = some (orNull s)) :
    optionalString decode (convertArraysToBuffers (object fields).json) key = s := by
  cases s with
  | none => exact optionalString_null h
  | some s => exact optionalString_string h

theorem optionalString_uint8Array (h : (object fields).get key = some (.uint8Array bytes)) :
    optionalString decode (convertArraysToBuffers (object fields).json) key =
      some "[object Object]" := by
  rw [optionalString, get_message, h]
  rfl

theorem stringField_of_optionalString {message : Js}
    (h : optionalString decode message key = some s) : stringField decode message key = s := by
  rw [stringField, h]
  rfl

theorem bytesField_ofBytes (h : (object fields).get key = some (.ofBytes bytes)) :
    bytesField base64 (convertArraysToBuffers (object fields).json) key = bytes := by
  rw [bytesField, get_message, h, map_some, json_ofBytes, ofBytes]
  cases bytes with
  -- an empty array stays an array, as it has no first element to tell its kind by
  | nil => rfl
  | cons b rest => exact map_octet_numbers (b :: rest)

theorem convertElements_uint8Arrays (arrays : List Bytes) :
    (convertElements (jsonElements (arrays.map .uint8Array))).map (text decode) =
      arrays.map fun _ => "[object Object]" := by
  induction arrays with
  | nil => rfl
  | cons bytes rest ih =>
    rw [List.map_cons, jsonElements, convertElements, List.map_cons, ih]
    rfl

theorem repeatedString_uint8Arrays {arrays : List Bytes}
    (h : (object fields).get key = some (.array (arrays.map .uint8Array))) :
    repeatedString decode (convertArraysToBuffers (object fields).json) key =
      .ok (arrays.map fun _ => "[object Object]") := by
  have hhead : ((jsonElements (arrays.map .uint8Array)).head?.any isNumber) = false := by
    cases arrays <;> rfl
  rw [repeatedString, get_message, h, map_some, json, convertArraysToBuffers, hhead]
  exact congrArg Except.ok (convertElements_uint8Arrays arrays)

theorem uuidOut_eq (id : Uuid) : uuidOut id = .ok (.uint8Array id.bytes) := by
  rw [uuidOut, uuidStringToBytes, Uuid.filter_text, Uuid.ofHex_hexEncode]
  rfl

theorem mapM_uuidOut (ids : List Uuid) :
    ids.mapM uuidOut = .ok ((ids.map Block.bytes).map .uint8Array) := by
  induction ids with
  | nil => rfl
  | cons id rest ih =>
    rw [List.mapM_cons, ih, uuidOut_eq]
    rfl

theorem parseId_object : parseId "[object Object]" = .error (.parse "[object Object]") := by
  decide

end Fields

/-! ## Agreement -/

section Agreement

variable {decode base64} {fields : List (String × Js)} {key : String}

/-- An id that the client has converted. -/
def typedArray (id : Uuid) : Js := .uint8Array id.bytes

theorem uuidOutOptional_eq (id : Option Uuid) :
    uuidOutOptional id = .ok (id.elim .null typedArray) := by
  cases id with
  | none => rfl
  | some id => exact uuidOut_eq id

theorem parseId_message {bytes : Bytes} (h : (object fields).get key = some (.uint8Array bytes)) :
    parseId (stringField decode (convertArraysToBuffers (object fields).json) key) =
      .error (.parse "[object Object]") := by
  rw [stringField_of_optionalString (optionalString_uint8Array h), parseId_object]

theorem parseOptionalId_message {id : Option Uuid}
    (h : (object fields).get key = some (id.elim .null typedArray)) :
    parseOptionalId (optionalString decode (convertArraysToBuffers (object fields).json) key) =
      if id.isSome then .error (.parse "[object Object]") else .ok none := by
  cases id with
  | none =>
    rw [optionalString_null h]
    rfl
  | some id =>
    rw [optionalString_uint8Array h, parseOptionalId, if_neg (by decide), parseId_object]
    rfl

theorem mapM_parseId_message {ids : List Uuid} (h : ids ≠ []) :
    (ids.map fun _ => "[object Object]").mapM parseId = .error (.parse "[object Object]") := by
  obtain ⟨id, rest, rfl⟩ := List.exists_cons_of_ne_nil h
  rw [List.map_cons, List.mapM_cons, parseId_object]
  rfl

theorem stringField_string {s : String} (h : (object fields).get key = some (.string s)) :
    stringField decode (convertArraysToBuffers (object fields).json) key = s :=
  stringField_of_optionalString (optionalString_string h)

/-- The fields of the payload: every id is one that the client can convert. -/
def DaemonOp.wireFields (token : String) : DaemonOp → List (String × Js)
  | listFolders => [("session_token", .string token)]
  | addFolder name description iconSvg =>
    [("session_token", .string token), ("name", .string name),
      ("description", orNull description), ("icon_svg", orNull iconSvg)]
  | updateFolder id name description iconSvg =>
    [("session_token", .string token), ("id", typedArray id), ("name", .string name),
      ("description", orNull description), ("icon_svg", orNull iconSvg)]
  | deleteFolder id moveCredentialsTo =>
    [("session_token", .string token), ("id", typedArray id),
      ("move_credentials_to", moveCredentialsTo.elim .null typedArray)]
  | reorderFolders orderedIds =>
    [("session_token", .string token),
      ("ordered_ids", .array ((orderedIds.map Block.bytes).map .uint8Array))]
  | listCredentials folderId =>
    [("session_token", .string token), ("folder_id", folderId.elim .null typedArray)]
  | getCredential id => [("session_token", .string token), ("id", typedArray id)]
  | addCredential folderId blob =>
    [("session_token", .string token), ("folder_id", folderId.elim .null typedArray),
      ("blob", .ofBytes blob)]
  | updateCredential id folderId blob =>
    [("session_token", .string token), ("id", typedArray id),
      ("folder_id", folderId.elim .null typedArray), ("blob", .ofBytes blob)]
  | deleteCredential id => [("session_token", .string token), ("id", typedArray id)]

section

variable (op : DaemonOp) (token : String)

theorem payload_eq : op.payload token = .ok (.object (op.wireFields token)) := by
  cases op <;> simp only [payload, uuidOut_eq, uuidOutOptional_eq, mapM_uuidOut] <;> rfl

theorem received_eq :
    op.received decode base64 (convertArraysToBuffers (object (op.wireFields token)).json) =
      if op.ids = [] then .ok op else .error (.parse "[object Object]") := by
  cases op with
  | listFolders => rfl
  | addFolder name description iconSvg =>
    rw [received, stringField_string (s := name) rfl,
      optionalString_orNull (s := description) rfl, optionalString_orNull (s := iconSvg) rfl]
    rfl
  | updateFolder id name description iconSvg =>
    rw [received, parseId_message rfl]
    rfl
  | deleteFolder id moveCredentialsTo =>
    -- the first id is refused; the other is not looked at
    rw [received, parseId_message rfl]
    rfl
  | reorderFolders orderedIds =>
    rw [received, repeatedString_uint8Arrays rfl]
    cases orderedIds with
    | nil => rfl
    | cons id rest =>
      simp only [bind, Except.bind, List.map_map]
      rw [Function.comp_def, mapM_parseId_message (List.cons_ne_nil id rest)]
      rfl
  | listCredentials folderId =>
    rw [received, parseOptionalId_message rfl]
    cases folderId <;> rfl
  | getCredential id =>
    rw [received, parseId_message rfl]
    rfl
  | addCredential folderId blob =>
    rw [received, parseOptionalId_message rfl, bytesField_ofBytes rfl]
    cases folderId <;> rfl
  | updateCredential id folderId blob =>
    rw [received, parseId_message rfl]
    rfl
  | deleteCredential id =>
    rw [received, parseId_message rfl]
    rfl

/-- **What becomes of a request.** With an id it is refused: the text of an id is that of no UUID.
-/
theorem deliver_eq :
    op.deliver decode base64 token =
      if op.ids = [] then .ok (token, op) else .error (.parse "[object Object]") := by
  have htoken : (object (op.wireFields token)).get "session_token" = some (.string token) := by
    cases op <;> rfl
  unfold deliver
  rw [payload_eq]
  simp only [bind, Except.bind, pure, Except.pure, received_eq, stringField_string htoken]
  by_cases hids : op.ids = []
  · simp only [hids, if_true]
  · simp only [hids, if_false]

end

theorem uuidBytesToString_text (id : Uuid) :
    uuidBytesToString (some (.string id.text)) = .error (.thrown "invalid uuid bytes: 36") := by
  have hlength : ((id.text.toList.map fun c => string c.toString).map octet).length = 36 := by
    rw [List.length_map, List.length_map, Uuid.length_text]
  have hblock : Block.ofBytes 16 ((id.text.toList.map fun c => string c.toString).map octet) =
      none := by
    unfold Block.ofBytes
    rw [dif_neg (by rw [hlength]; decide)]
  simp only [uuidBytesToString, values, map_some, elim_some, bind, Except.bind, hblock, hlength]
  rfl

/-- **What the client returns** is what was answered only if that was nothing. -/
theorem returned_iff (hempty : J.parse [] = none) {op : DaemonOp} {reply : HandlerReply V}
    (h : op.Answers reply) : op.returned J reply = .ok reply.value ↔ reply = .ok := by
  cases reply with
  | ok =>
    refine iff_of_true ?_ rfl
    cases op <;> first | rfl | cases h
  | created id =>
    refine iff_of_false (fun hok => ?_) nofun
    have hthrown : (uuidBytesToString (((HandlerReply.created id).answer J).bind (get "id"))).map
        (ClientValue.id (V := V)) = .error (.thrown "invalid uuid bytes: 36") :=
      congrArg (Except.map ClientValue.id) (uuidBytesToString_text id)
    cases op <;> first | (rw [returned, hthrown] at hok; cases hok) | cases h
  | data value =>
    refine iff_of_false (fun hok => ?_) nofun
    have hthrown : (rpcJson J ((HandlerReply.data value).answer J)).map ClientValue.json =
        .error .exception := by
      have hoctets : ((HandlerReply.data value).answer J).elim [] octets = [] := rfl
      rw [rpcJson, hoctets, hempty]
      rfl
    cases op <;> first | (rw [returned, hthrown] at hok; cases hok) | cases h

/-- **Where client and daemon agree**: on requests that carry no id, and on answers that carry
nothing. -/
theorem wire_agrees_iff (hempty : J.parse [] = none) {op : DaemonOp} {reply : HandlerReply V}
    (h : op.Answers reply) (token : String) :
    (op.deliver decode base64 token = .ok (token, op) ↔ op.ids = []) ∧
      (op.returned J reply = .ok reply.value ↔ reply = .ok) := by
  refine ⟨?_, returned_iff J hempty h⟩
  rw [deliver_eq]
  split
  · exact iff_of_true rfl ‹_›
  · exact iff_of_false nofun ‹_›

end Agreement

/-! ## Some requests -/

/-- JSON with one value, the empty object. -/
def emptyObject : Codec Unit where
  stringify _ := [123, 125]
  parse text := if text = [123, 125] then some () else none

theorem wire_agrees_iff_reorder :
    ((reorderFolders []).deliver (fun _ => "") (fun _ => []) "token" =
        .ok ("token", .reorderFolders []) ↔ (reorderFolders []).ids = []) ∧
      ((reorderFolders []).returned emptyObject .ok = .ok HandlerReply.ok.value ↔
        (HandlerReply.ok : HandlerReply Unit) = .ok) := by
  have hanswers : (reorderFolders []).Answers (HandlerReply.ok : HandlerReply Unit) :=
    trivial
  exact wire_agrees_iff emptyObject rfl hanswers "token"

/-- An id, all of whose bytes are one. -/
def someId : Uuid := .replicate 16 1

/-- **Neither way.** The daemon refuses the id of a credential; the client can read neither the id
of a folder it has added nor the list of folders. -/
theorem wire_disagrees :
    (getCredential someId).deliver (fun _ => "") (fun _ => []) "token" =
        .error (.parse "[object Object]") ∧
      (addFolder "Work" none none).returned emptyObject (.created someId) =
        .error (.thrown "invalid uuid bytes: 36") ∧
      listFolders.returned emptyObject (.data ()) = .error .exception := by
  refine ⟨?_, ?_, rfl⟩
  · rw [deliver_eq]
    exact if_neg (List.cons_ne_nil someId [])
  · exact congrArg (Except.map ClientValue.id) (uuidBytesToString_text someId)

end PwdNow.Client
