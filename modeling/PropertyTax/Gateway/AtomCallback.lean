import PropertyTax.Gateway.AtomFields
import PropertyTax.Schema

/-! From a request body to the fields of a callback. The live provider accepts
encrypted bodies only; the sandbox provider reads plain ones. -/
namespace PropertyTax
open Json

inductive ProviderName where
  | sandbox | atomNdps
deriving DecidableEq

def ProviderName.text : ProviderName → String
  | sandbox => "sandbox"
  | atomNdps => "atom-ndps"

/-- The provider of a running service, with its keys and ciphers.
`decryptPayload` is `none` where the cipher throws. -/
structure Gateway where
  name : ProviderName
  decryptPayload : String → Option Json
  respHashKey : Option String
  hmacSha512Hex : String → String → String

/-- Why a body has no callback fields. A `callbackParse` error is caught and
rejects the webhook; a `typeError` escapes. -/
inductive ParseFailure where
  | callbackParse (code message : String)
  | typeError (message : String)
deriving DecidableEq

structure ParsedCallback where
  normalized : Fields
  merchTxnId : Option String
  atomTxnId : Option String
  statusCode : String
  gatewayAmount : Option ℚ

/-- `typeof payload.encData === "string" ? payload.encData.trim() : ""` -/
def encDataOf (payload : Fields) : String :=
  match payload.get "encData" with
  | some (.str text) => Js.trim text
  | _ => ""

def assertAtomCallbackSignatureIfConfigured (gateway : Gateway) (decoded : Json) :
    Except ParseFailure Unit :=
  let key := Js.trim (gateway.respHashKey.getD "")
  if key = "" then .ok ()
  else if verifyAtomCallbackSignature gateway.hmacSha512Hex decoded key then .ok ()
  else .error (.callbackParse "INVALID_SIGNATURE" "Invalid gateway callback signature")

/-- The extracted fields over the body and what it decodes to. -/
def normalizedWith (payload : Fields) (decoded : Json) (merchTxnId atomTxnId : Option String)
    (statusCode : String) (gatewayAmount : Option ℚ) : Fields :=
  let base := Fields.spread payload (ownFields decoded)
  let base := base.setOption "merchTxnId" (merchTxnId.map .str)
  let base := base.setOption "atomTxnId" (atomTxnId.map .str)
  let base := base.set "statusCode" (.str statusCode)
  let base := base.setOption "gatewayAmount" (gatewayAmount.map .num)
  base.set "_decoded" decoded

/-- Require encrypted callback bodies and reject unsigned plain JSON. -/
def parseAtomEncryptedCallback (gateway : Gateway) (payload : Fields) :
    Except ParseFailure ParsedCallback :=
  let encData := encDataOf payload
  if encData = "" then
    .error (.callbackParse "MISSING_ENCDATA" "Gateway callback must include encData")
  else
    match gateway.decryptPayload encData with
    | none =>
        .error (.callbackParse "DECRYPT_FAILED" "Failed to decrypt gateway callback encData")
    | some decoded =>
        match assertAtomCallbackSignatureIfConfigured gateway decoded with
        | .error failure => .error failure
        | .ok () =>
            let fields := extractAtomTxnFields decoded
            let normalized := normalizedWith payload decoded fields.merchTxnId fields.atomTxnId
              fields.statusCode fields.gatewayAmount
            .ok {
              normalized := normalized.set "_encDataVerified" (.bool true)
              merchTxnId := fields.merchTxnId
              atomTxnId := fields.atomTxnId
              statusCode := fields.statusCode
              gatewayAmount := fields.gatewayAmount }

/-- The provider with a cipher decrypts here too; the sandbox has none. -/
def decodeBody (gateway : Gateway) (payload : Fields) : Option Json :=
  if encDataOf payload ≠ "" ∧ gateway.name = .atomNdps then
    gateway.decryptPayload (encDataOf payload)
  else some (.obj payload)

/-- Flat fields of the body stand in for what the decoded payload lacks. -/
def normalizeGatewayPayload (gateway : Gateway) (payload : Fields) :
    Except ParseFailure Fields :=
  match decodeBody gateway payload with
  | none => .error (.typeError "decryption failed")
  | some decoded =>
      let fields := extractAtomTxnFields decoded
      let flatFields := extractAtomTxnFields (.obj payload)
      let statusCode :=
        if fields.statusCode ≠ "UNKNOWN" then fields.statusCode else flatFields.statusCode
      .ok (normalizedWith payload decoded (fields.merchTxnId.or flatFields.merchTxnId)
        (fields.atomTxnId.or flatFields.atomTxnId) statusCode
        (fields.gatewayAmount.or flatFields.gatewayAmount))

/-- `normalized.merchantTxnId as string | undefined`: a value of another type
makes the lookups that follow throw. -/
def merchantTxnIdCast (normalized : Fields) : Except ParseFailure (Option String) :=
  match normalized.get "merchantTxnId" with
  | none => .ok none
  | some .null => .ok none
  | some (.str text) => .ok (some text)
  | some _ => .error (.typeError "merchantTxnId is not a string")

def parseCallbackPayload (gateway : Gateway) (payload : Fields) :
    Except ParseFailure ParsedCallback :=
  match gateway.name with
  | .atomNdps => parseAtomEncryptedCallback gateway payload
  | .sandbox =>
      match normalizeGatewayPayload gateway payload with
      | .error failure => .error failure
      | .ok normalized =>
          let fields := extractAtomTxnFields (.obj normalized)
          let parsedWith (merchTxnId : Option String) : ParsedCallback :=
            { normalized, merchTxnId, atomTxnId := fields.atomTxnId,
              statusCode := fields.statusCode, gatewayAmount := fields.gatewayAmount }
          match fields.merchTxnId with
          | some text => .ok (parsedWith (some text))
          | none => (merchantTxnIdCast normalized).map parsedWith

/-- With a response key configured, the live provider hands on only the fields
extracted from a payload whose signature verifies. -/
theorem parseAtomEncryptedCallback_signed {gateway : Gateway} {payload : Fields} {key : String}
    {parsed : ParsedCallback} (hKey : gateway.respHashKey = some key) (hBlank : Js.trim key ≠ "")
    (h : parseAtomEncryptedCallback gateway payload = .ok parsed) :
    ∃ decoded, verifyAtomCallbackSignature gateway.hmacSha512Hex decoded (Js.trim key) = true ∧
      parsed.merchTxnId = (extractAtomTxnFields decoded).merchTxnId ∧
      parsed.atomTxnId = (extractAtomTxnFields decoded).atomTxnId ∧
      parsed.statusCode = (extractAtomTxnFields decoded).statusCode ∧
      parsed.gatewayAmount = (extractAtomTxnFields decoded).gatewayAmount := by
  simp only [parseAtomEncryptedCallback] at h
  split_ifs at h with hEnc
  cases hDecoded : gateway.decryptPayload (encDataOf payload) with
  | none => simp [hDecoded] at h
  | some decoded =>
      rw [hDecoded] at h
      cases hAssert : assertAtomCallbackSignatureIfConfigured gateway decoded with
      | error failure => simp [hAssert] at h
      | ok _ =>
          simp only [hAssert] at h
          cases h
          refine ⟨decoded, ?_, rfl, rfl, rfl, rfl⟩
          by_contra hUnsigned
          simp [assertAtomCallbackSignatureIfConfigured, hKey, hBlank, hUnsigned] at hAssert

end PropertyTax
