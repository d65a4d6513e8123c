import PropertyTax.Payments.Callback

/-! Agreement between the verifier of a callback and the extractor. They read
the same object with different precedence, so a payload that carries a second
spelling of a field can verify under one value and act on another. -/
namespace PropertyTax
open Json

/-- The extractor hands on exactly the values that entered the signature. -/
def ActsOnSigned (decoded : Json) : Prop :=
  ∃ signed, signedFields? decoded = some signed ∧
    (extractAtomTxnFields decoded).merchTxnId = some signed.merchTxnId ∧
    (extractAtomTxnFields decoded).atomTxnId = some signed.atomTxnId ∧
    (extractAtomTxnFields decoded).statusCode = signed.statusCode ∧
    (extractAtomTxnFields decoded).gatewayAmount = some signed.totalAmount

/-- The spellings that the extractor prefers to a signed field are absent or
repeat it, and the amount it reads in place of `totalAmount` is the same number. -/
structure SpellingsAgree (decoded : Json) : Prop where
  merchTxnId :
    pickString [field (asObject decoded) "merchTxnId", field (asObject decoded) "merchantTxnId"] =
        none ∨
      pickString [field (asObject decoded) "merchTxnId",
        field (asObject decoded) "merchantTxnId"] =
          pickString [field (detailsOf decoded "merchDetails") "merchTxnId"]
  atomTxnId :
    pickString [field (asObject decoded) "atomTxnId"] = none ∨
      pickString [field (asObject decoded) "atomTxnId"] =
        pickString [field (detailsOf decoded "payDetails") "atomTxnId"]
  statusCode :
    pickString [field (asObject decoded) "statusCode"] = none ∨
      pickString [field (asObject decoded) "statusCode"] =
        pickString [field (detailsOf decoded "responseDetails") "statusCode"]
  amount :
    (pickString [field (detailsOf decoded "payDetails") "amount",
      field (asObject decoded) "amount"]).bind Js.number? =
        (pickString [field (detailsOf decoded "payDetails") "totalAmount"]).bind Js.number?

/-- A preferred spelling before a field that is present: the first wins. -/
theorem pickString_preferred (preferred : List (Option Json)) {nested : List (Option Json)}
    (rest : List (Option Json)) {text : String} (hNested : pickString nested = some text) :
    pickString (preferred ++ (nested ++ rest)) = some text ↔
      pickString preferred = none ∨ pickString preferred = pickString nested := by
  rw [pickString_append, pickString_append, hNested, Option.some_or]
  cases hPreferred : pickString preferred with
  | none => simp
  | some other => simp

variable {hmacSha512Hex : String → String → String} {decoded : Json} {respHashKey : String}

theorem actsOnSigned_iff_spellingsAgree
    (h : verifyAtomCallbackSignature hmacSha512Hex decoded respHashKey = true) :
    ActsOnSigned decoded ↔ SpellingsAgree decoded := by
  obtain ⟨signed, hSigned⟩ := signedFields?_of_verify h
  obtain ⟨hMerch, hAtom, hStatus, hTotal⟩ := pick_of_signedFields? hSigned
  have hMerchIff := pickString_preferred
    [field (asObject decoded) "merchTxnId", field (asObject decoded) "merchantTxnId"]
    [field (detailsOf decoded "merchDetails") "merchantTxnId"] hMerch
  have hAtomIff := pickString_preferred
    [field (asObject decoded) "atomTxnId"] [field (payInstrumentOf decoded) "atomTxnId"] hAtom
  have hStatusIff := pickString_preferred
    [field (asObject decoded) "statusCode"]
    [field (detailsOf decoded "responseDetails") "message"] hStatus
  -- A code was found, so the default is not used.
  have hCode : (extractAtomTxnFields decoded).statusCode = signed.statusCode ↔
      pickString ([field (asObject decoded) "statusCode"] ++
        ([field (detailsOf decoded "responseDetails") "statusCode"] ++
          [field (detailsOf decoded "responseDetails") "message"])) = some signed.statusCode := by
    have hPresent : ∃ text, pickString ([field (asObject decoded) "statusCode"] ++
        ([field (detailsOf decoded "responseDetails") "statusCode"] ++
          [field (detailsOf decoded "responseDetails") "message"])) = some text := by
      rw [pickString_append, pickString_append, hStatus, Option.some_or]
      cases pickString [field (asObject decoded) "statusCode"] with
      | none => exact ⟨_, rfl⟩
      | some text => exact ⟨text, rfl⟩
    obtain ⟨text, hText⟩ := hPresent
    have hRead : (extractAtomTxnFields decoded).statusCode = text := by
      change (pickString ([field (asObject decoded) "statusCode"] ++
        ([field (detailsOf decoded "responseDetails") "statusCode"] ++
          [field (detailsOf decoded "responseDetails") "message"]))).getD "UNKNOWN" = text
      rw [hText]
      rfl
    rw [hRead, hText, Option.some.injEq]
  constructor
  · intro hActs
    obtain ⟨other, hOther, hm, ha, hs, hg⟩ := hActs
    rw [hSigned] at hOther
    cases hOther
    exact ⟨hMerchIff.mp hm, hAtomIff.mp ha, hStatusIff.mp (hCode.mp hs), hg.trans hTotal.symm⟩
  · intro hAgree
    exact ⟨signed, hSigned, hMerchIff.mpr hAgree.merchTxnId, hAtomIff.mpr hAgree.atomTxnId,
      hCode.mpr (hStatusIff.mpr hAgree.statusCode), hAgree.amount.trans hTotal⟩

/-- The values of two payloads that entered their signatures and that a
callback acts on. -/
def SameSigned (decoded other : Json) : Prop :=
  (signedFields? decoded).map (fun s => (s.merchTxnId, s.atomTxnId, s.statusCode, s.totalAmount)) =
    (signedFields? other).map fun s => (s.merchTxnId, s.atomTxnId, s.statusCode, s.totalAmount)

/-- The callback acts on the fields extracted from a payload. -/
structure CallbackRead.ActsOn (read : CallbackRead) (decoded : Json) : Prop where
  merchTxnId : some read.merchTxnId = (extractAtomTxnFields decoded).merchTxnId
  atomTxnId : read.atomTxnId = (extractAtomTxnFields decoded).atomTxnId
  statusCode : read.statusCode = (extractAtomTxnFields decoded).statusCode
  gatewayAmount : read.gatewayAmount = (extractAtomTxnFields decoded).gatewayAmount

/-- A verified payload acts on signed data exactly when its spellings agree, and
two such payloads with the same signed data drive a payment to one status. -/
theorem callback_acts_on_signed
    (h : verifyAtomCallbackSignature hmacSha512Hex decoded respHashKey = true) :
    (ActsOnSigned decoded ↔ SpellingsAgree decoded) ∧
    ∀ other, verifyAtomCallbackSignature hmacSha512Hex other respHashKey = true →
      SameSigned decoded other → SpellingsAgree decoded → SpellingsAgree other →
      ∀ read read' : CallbackRead, read.ActsOn decoded → read'.ActsOn other →
        read.payment = read'.payment →
          read.effectiveStatus = read'.effectiveStatus ∧
            ∀ provider, read.amountMismatch provider = read'.amountMismatch provider := by
  refine ⟨actsOnSigned_iff_spellingsAgree h, ?_⟩
  intro other hOther hSame hAgree hAgree' read read' hRead hRead' hPayment
  obtain ⟨signed, hSigned, _, _, hStatus, hAmount⟩ :=
    (actsOnSigned_iff_spellingsAgree h).mpr hAgree
  obtain ⟨signed', hSigned', _, _, hStatus', hAmount'⟩ :=
    (actsOnSigned_iff_spellingsAgree hOther).mpr hAgree'
  simp only [SameSigned, hSigned, hSigned', Option.map_some, Option.some.injEq,
    Prod.mk.injEq] at hSame
  have hCode : read.statusCode = read'.statusCode := by
    rw [hRead.statusCode, hRead'.statusCode, hStatus, hStatus', hSame.2.2.1]
  have hPaid : read.gatewayAmount = read'.gatewayAmount := by
    rw [hRead.gatewayAmount, hRead'.gatewayAmount, hAmount, hAmount', hSame.2.2.2]
  obtain ⟨_, _, _, _, _, _, _, _⟩ := read
  obtain ⟨_, _, _, _, _, _, _, _⟩ := read'
  dsimp only at hCode hPaid hPayment
  subst hCode hPaid hPayment
  exact ⟨rfl, fun _ => rfl⟩

/-! ### A payload that says two things -/

/-- The digest of the sample's signature string under the key `k`; any other
string is kept apart from it. -/
def sampleHmac (key text : String) : String :=
  if key = "k" ∧ text = "111CHH-1-a400.00OTS0600NBB1" then
    "35105d5c082c7aaafe2de5d2f99c114a29326d0d2bbb7a36f2b1cdd8a37edc51" ++
      "d9b3d1915a791a4e4d9ad354c29b913e2c7cc4c313244334b96ad332883b4faa"
  else "x" ++ text

theorem sampleHmac_injective (key : String) : Function.Injective (sampleHmac key) := by
  intro a b h
  unfold sampleHmac at h
  split_ifs at h with ha hb hb
  · exact ha.2.trans hb.2.symm
  · have hHead := congrArg (fun text => text.toList.head?) h
    simp at hHead
  · have hHead := congrArg (fun text => text.toList.head?) h
    simp at hHead
  · simpa using h

/-- A signed failure of 400 rupees, with further fields beside the instrument. -/
def signedFailure (beside : Fields) : Json :=
  .obj (beside ++ [("payInstrument", .obj [
    ("merchDetails", .obj [("merchId", .num 1), ("merchTxnId", .str "CHH-1-a")]),
    ("payDetails", .obj [("atomTxnId", .num 11), ("amount", .str "400.00"),
      ("totalAmount", .str "400.00"), ("signature", .str
        ("35105d5c082c7aaafe2de5d2f99c114a29326d0d2bbb7a36f2b1cdd8a37edc51" ++
          "d9b3d1915a791a4e4d9ad354c29b913e2c7cc4c313244334b96ad332883b4faa"))]),
    ("responseDetails", .obj [("statusCode", .str "OTS0600")]),
    ("payModeSpecificData", .obj [("subChannel", .arr [.str "NB"]),
      ("bankDetails", .obj [("bankTxnId", .str "B1")])])])])

theorem trim_signature : Js.trim
    ("35105d5c082c7aaafe2de5d2f99c114a29326d0d2bbb7a36f2b1cdd8a37edc51" ++
      "d9b3d1915a791a4e4d9ad354c29b913e2c7cc4c313244334b96ad332883b4faa") =
    "35105d5c082c7aaafe2de5d2f99c114a29326d0d2bbb7a36f2b1cdd8a37edc51" ++
      "d9b3d1915a791a4e4d9ad354c29b913e2c7cc4c313244334b96ad332883b4faa" := by
  apply Js.trim_eq_self
  · rw [String.toList_append, List.head?_append]
    decide
  · rw [String.toList_append, List.getLast?_append]
    decide

theorem verify_signedFailure {beside : Fields}
    (hString : (signedFields? (signedFailure beside)).map SignedFields.signatureString =
      some "111CHH-1-a400.00OTS0600NBB1")
    (hDetails : detailsOf (signedFailure beside) "payDetails" =
      detailsOf (signedFailure []) "payDetails") :
    verifyAtomCallbackSignature sampleHmac (signedFailure beside) "k" = true := by
  obtain ⟨signed, hSigned, hText⟩ := Option.map_eq_some_iff.mp hString
  have hKey : Js.trim "k" = "k" := by decide
  have hField : field (detailsOf (signedFailure []) "payDetails") "signature" = some (.str
      ("35105d5c082c7aaafe2de5d2f99c114a29326d0d2bbb7a36f2b1cdd8a37edc51" ++
        "d9b3d1915a791a4e4d9ad354c29b913e2c7cc4c313244334b96ad332883b4faa")) := rfl
  have hReceived := received_of_signedFields? hSigned
  -- The digest is compared as it stands: its characters are never looked at.
  rw [hDetails, hField, pickString, Js.isBlank, trim_signature, if_neg (by decide),
    Option.some.injEq] at hReceived
  apply verifyAtomCallbackSignature_of_received _ hSigned
  · rw [hKey, hText, sampleHmac, if_pos ⟨rfl, rfl⟩, hReceived]
  · rw [hKey]
    decide

/-- The signed failure without other spellings is acted upon as it was signed. -/
theorem callback_acts_on_signed_failure :
    ActsOnSigned (signedFailure []) ↔ SpellingsAgree (signedFailure []) :=
  have hVerified : verifyAtomCallbackSignature sampleHmac (signedFailure []) "k" = true :=
    verify_signedFailure (by decide +kernel) rfl
  (callback_acts_on_signed hVerified).1

/-- A success code beside the signed instrument: the signature verifies for the
failure, and the callback acts on the success. -/
theorem unsigned_success_overrides_signed_failure :
    (∀ key, Function.Injective (sampleHmac key)) ∧
      verifyAtomCallbackSignature sampleHmac
        (signedFailure [("statusCode", .str "OTS0000")]) "k" = true ∧
      ¬ ActsOnSigned (signedFailure [("statusCode", .str "OTS0000")]) := by
  refine ⟨sampleHmac_injective, verify_signedFailure (by decide +kernel) rfl, ?_⟩
  intro hActs
  obtain ⟨signed, hSigned, _, _, hStatus, _⟩ := hActs
  have hRead : (extractAtomTxnFields (signedFailure [("statusCode", .str "OTS0000")])).statusCode =
      "OTS0000" := by decide
  have hCode : (signedFields? (signedFailure [("statusCode", .str "OTS0000")])).map
      SignedFields.statusCode = some "OTS0600" := by decide +kernel
  rw [hSigned, Option.map_some, ← hStatus, hRead] at hCode
  exact absurd (Option.some.inj hCode) (by decide)

end PropertyTax
