import PropertyTax.Library.JsText
import PropertyTax.Library.JsJson

/-! The two readers of a decoded gateway payload: the one that extracts the
fields a callback acts on, and the one that checks the callback signature. -/
namespace PropertyTax
open Json

def asObject : Option Json → Option Fields
  | some (.obj fields) => some fields
  | _ => none

/-- The first value that is a number or a string that is not blank. -/
def pickString : List (Option Json) → Option String
  | [] => none
  | some (.str text) :: rest =>
      if Js.isBlank text then pickString rest else some (Js.trim text)
  | some (.num x) :: _ => some (Js.numberToString x)
  | _ :: rest => pickString rest

theorem pickString_append (first second : List (Option Json)) :
    pickString (first ++ second) = (pickString first).or (pickString second) := by
  induction first with
  | nil => simp [pickString]
  | cons value rest ih =>
      rcases value with _ | value
      · simpa [pickString] using ih
      · cases value with
        | str text =>
            simp only [List.cons_append, pickString]
            split_ifs
            · exact ih
            · simp
        | num x => simp [pickString]
        | _ => simpa [pickString] using ih

/-- `object?.name` -/
def field (object : Option Fields) (name : String) : Option Json :=
  object.bind fun fields => fields.get name

def payInstrumentOf (decoded : Json) : Option Fields :=
  (asObject (some decoded)).map fun root => (asObject (root.get "payInstrument")).getD root

/-- A nested object of the payment instrument. -/
def detailsOf (decoded : Json) (name : String) : Option Fields :=
  asObject (field (payInstrumentOf decoded) name)

structure AtomTxnFields where
  merchTxnId : Option String
  atomTxnId : Option String
  statusCode : String
  gatewayAmount : Option ℚ
  redirectUrl : Option String
  message : Option String

/-- Extract status and transaction fields from flat or nested payloads. -/
def extractAtomTxnFields (decoded : Json) : AtomTxnFields :=
  let root := asObject (some decoded)
  let instrument := payInstrumentOf decoded
  let merchDetails := detailsOf decoded "merchDetails"
  let payDetails := detailsOf decoded "payDetails"
  let responseDetails := detailsOf decoded "responseDetails"
  { merchTxnId := pickString [field root "merchTxnId", field root "merchantTxnId",
      field merchDetails "merchTxnId", field merchDetails "merchantTxnId"]
    atomTxnId := pickString [field root "atomTxnId", field payDetails "atomTxnId",
      field instrument "atomTxnId"]
    statusCode := (pickString [field root "statusCode", field responseDetails "statusCode",
      field responseDetails "message"]).getD "UNKNOWN"
    gatewayAmount :=
      (pickString [field payDetails "amount", field root "amount"]).bind Js.number?
    redirectUrl := pickString [field root "redirectUrl", field instrument "redirectUrl",
      field responseDetails "redirectUrl", field payDetails "redirectUrl"]
    message := pickString [field responseDetails "message", field root "message"] }

/-- The values the callback signature covers, and the signature itself. -/
structure SignedFields where
  merchId : String
  atomTxnId : String
  merchTxnId : String
  totalAmount : ℚ
  statusCode : String
  subChannel0 : String
  bankTxnId : String
  received : String

/-- `subChannel[0]` of a list of channels, or the single channel. -/
def subChannel0 : Option Json → Option String
  | some (.arr channels) => pickString [channels.head?]
  | other => pickString [other]

def signedFields? (decoded : Json) : Option SignedFields := do
  let merchDetails := detailsOf decoded "merchDetails"
  let payDetails := detailsOf decoded "payDetails"
  let responseDetails := detailsOf decoded "responseDetails"
  let payMode := detailsOf decoded "payModeSpecificData"
  let bankDetails := asObject (field payMode "bankDetails")
  let merchId ← pickString [field merchDetails "merchId"]
  let atomTxnId ← pickString [field payDetails "atomTxnId"]
  let merchTxnId ← pickString [field merchDetails "merchTxnId"]
  let totalAmountRaw ← pickString [field payDetails "totalAmount"]
  let statusCode ← pickString [field responseDetails "statusCode"]
  let subChannel0 ← subChannel0 (field payMode "subChannel")
  let bankTxnId ← pickString [field bankDetails "bankTxnId"]
  let received ← pickString [field payDetails "signature"]
  let totalAmount ← Js.number? totalAmountRaw
  pure { merchId, atomTxnId, merchTxnId, totalAmount, statusCode, subChannel0, bankTxnId, received }

def SignedFields.signatureString (signed : SignedFields) : String :=
  signed.merchId ++ signed.atomTxnId ++ signed.merchTxnId ++ Js.toFixed2 signed.totalAmount ++
    signed.statusCode ++ signed.subChannel0 ++ signed.bankTxnId

/-- `merchId + atomTxnId + merchTxnId + totalAmount.toFixed(2) + statusCode +
subChannel[0] + bankTxnId`, under the key of the gateway's responses. -/
def verifyAtomCallbackSignature (hmacSha512Hex : String → String → String) (decoded : Json)
    (respHashKey : String) : Bool :=
  let key := Js.trim respHashKey
  if key = "" then false
  else
    match signedFields? decoded with
    | none => false
    | some signed =>
        let calculated := Js.toLowerCase (hmacSha512Hex key signed.signatureString)
        calculated == Js.toLowerCase signed.received

/-- What verifies has all the fields that are signed. -/
theorem signedFields?_of_verify {hmacSha512Hex : String → String → String} {decoded : Json}
    {respHashKey : String}
    (h : verifyAtomCallbackSignature hmacSha512Hex decoded respHashKey = true) :
    ∃ signed, signedFields? decoded = some signed := by
  unfold verifyAtomCallbackSignature at h
  cases hSigned : signedFields? decoded with
  | none => simp [hSigned] at h
  | some signed => exact ⟨signed, rfl⟩

/-- A payload that carries the digest of its signature string verifies. -/
theorem verifyAtomCallbackSignature_of_received {hmacSha512Hex : String → String → String}
    {decoded : Json} {respHashKey : String} {signed : SignedFields}
    (hKey : Js.trim respHashKey ≠ "") (hSigned : signedFields? decoded = some signed)
    (hHmac : hmacSha512Hex (Js.trim respHashKey) signed.signatureString = signed.received) :
    verifyAtomCallbackSignature hmacSha512Hex decoded respHashKey = true := by
  simp [verifyAtomCallbackSignature, hKey, hSigned, hHmac]

/-- Each signed value is read from its nested field alone. -/
theorem pick_of_signedFields? {decoded : Json} {signed : SignedFields}
    (h : signedFields? decoded = some signed) :
    pickString [field (detailsOf decoded "merchDetails") "merchTxnId"] =
        some signed.merchTxnId ∧
      pickString [field (detailsOf decoded "payDetails") "atomTxnId"] = some signed.atomTxnId ∧
      pickString [field (detailsOf decoded "responseDetails") "statusCode"] =
        some signed.statusCode ∧
      (pickString [field (detailsOf decoded "payDetails") "totalAmount"]).bind Js.number? =
        some signed.totalAmount := by
  simp only [signedFields?, Option.pure_def, Option.bind_eq_bind, Option.bind_eq_some_iff] at h
  obtain ⟨_, _, _, hAtom, _, hMerch, _, hTotal, _, hStatus, _, _, _, _, _, _, _, hNumber,
    hSigned⟩ := h
  cases hSigned
  exact ⟨hMerch, hAtom, hStatus, by rw [hTotal]; exact hNumber⟩

/-- The signature that is compared is the one that was sent. -/
theorem received_of_signedFields? {decoded : Json} {signed : SignedFields}
    (h : signedFields? decoded = some signed) :
    pickString [field (detailsOf decoded "payDetails") "signature"] = some signed.received := by
  simp only [signedFields?, Option.pure_def, Option.bind_eq_bind, Option.bind_eq_some_iff] at h
  obtain ⟨_, _, _, _, _, _, _, _, _, _, _, _, _, _, _, hReceived, _, _, hSigned⟩ := h
  cases hSigned
  exact hReceived

end PropertyTax
