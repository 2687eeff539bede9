import AlphE.Security.ActionIntent

/-!
What a signature on an intent protects. With an ideal hash and an ideal
signature scheme, an intent that carries the signature of another one verifies
exactly when it has its hash and the same effect: the action type, the target,
the parameters as a finite map, the expected effect and the rollback hint. The
other fields, the expiry and the signer among them, are free.
-/

namespace AlphE.Security

/-- Agreement on the five fields that say what the action does. -/
structure SameEffect (i j : ActionIntent) : Prop where
  actionType_eq : i.actionType = j.actionType
  target_eq : i.target = j.target
  parameters_equiv : i.parameters.Equiv j.parameters
  expectedEffect_eq : i.expectedEffect = j.expectedEffect
  rollbackHint_eq : i.rollbackHint = j.rollbackHint

/-! ### The hash -/

section Hash

variable {sha256 : Bytes → String} (hsha : Function.Injective sha256)

include hsha

theorem computeIntentHash_eq_iff (a a' t t' e e' r r' : String) (p p' : Parameters) :
    computeIntentHash sha256 a t p e r = computeIntentHash sha256 a' t' p' e' r' ↔
      a = a' ∧ t = t' ∧ p.Equiv p' ∧ e = e' ∧ r = r' := by
  rw [computeIntentHash, computeIntentHash, hsha.eq_iff,
    String.encodeUtf8_injective.eq_iff, dumps_intentPayload_eq_iff]

theorem intentHash_eq_iff (i j : ActionIntent) :
    intentHash sha256 i = intentHash sha256 j ↔ SameEffect i j := by
  rw [intentHash, intentHash, computeIntentHash_eq_iff hsha]
  constructor
  · rintro ⟨ha, ht, hp, he, hr⟩
    exact ⟨ActionType.value_injective ha, ht, hp, he, hr⟩
  · rintro ⟨ha, ht, hp, he, hr⟩
    exact ⟨congrArg _ ha, ht, hp, he, hr⟩

end Hash

/-! ### Verification -/

section Verification

variable {κ ν : Type} (sha256 : Bytes → String) (ed25519 : SignatureScheme κ ν)
  (isprintable : Char → Bool)

/-- The second half of `verify`, reached when the stored hash is right. -/
theorem verify_of_hash_eq (publicKey : ν) {i : ActionIntent}
    (hhash : i.hash = intentHash sha256 i) :
    verify sha256 ed25519 isprintable publicKey i =
      match Base64.b64decode i.signature with
      | .error exc => .error ⟨"Ed25519 signature verification failed: " ++ exc⟩
      | .ok raw =>
          if ed25519.verify publicKey raw i.hash.encodeUtf8 then .ok true
          else .error ⟨"Ed25519 signature verification failed: "⟩ := by
  rw [verify]
  exact if_neg (not_not_intro hhash)

theorem verify_of_hash_ne (publicKey : ν) {i : ActionIntent}
    (hhash : i.hash ≠ intentHash sha256 i) :
    ∃ err, verify sha256 ed25519 isprintable publicKey i = .error err := by
  rw [verify]
  exact ⟨_, if_pos hhash⟩

theorem verify_eq_ok_iff (publicKey : ν) (i : ActionIntent) :
    verify sha256 ed25519 isprintable publicKey i = .ok true ↔
      i.hash = intentHash sha256 i ∧
        ∃ raw, Base64.b64decode i.signature = .ok raw ∧
          ed25519.verify publicKey raw i.hash.encodeUtf8 = true := by
  by_cases hhash : i.hash = intentHash sha256 i
  · rw [verify_of_hash_eq sha256 ed25519 isprintable publicKey hhash]
    cases hdec : Base64.b64decode i.signature with
    | error exc => simp
    | ok raw => simp [hhash]
  · obtain ⟨err, herr⟩ := verify_of_hash_ne sha256 ed25519 isprintable publicKey hhash
    simp [herr, hhash]

/-- `verify` returns true or raises. -/
theorem verify_eq_ok_or_error (publicKey : ν) (i : ActionIntent) :
    verify sha256 ed25519 isprintable publicKey i = .ok true ∨
      ∃ err, verify sha256 ed25519 isprintable publicKey i = .error err := by
  by_cases hhash : i.hash = intentHash sha256 i
  · rw [verify_of_hash_eq sha256 ed25519 isprintable publicKey hhash]
    cases hdec : Base64.b64decode i.signature with
    | error exc => exact .inr ⟨_, rfl⟩
    | ok raw =>
        cases hv : ed25519.verify publicKey raw i.hash.encodeUtf8 with
        | true => exact .inl (by simp [hv])
        | false => exact .inr ⟨_, by simp [hv]; rfl⟩
  · exact .inr (verify_of_hash_ne sha256 ed25519 isprintable publicKey hhash)

@[simp] theorem sign_hash (key : κ) (i : ActionIntent) :
    (sign sha256 ed25519 key i).hash = intentHash sha256 i := rfl

@[simp] theorem sign_signature (key : κ) (i : ActionIntent) :
    (sign sha256 ed25519 key i).signature =
      Base64.b64encode (ed25519.sign key (intentHash sha256 i).encodeUtf8) := rfl

/-- Signing touches the hash and the signature only. -/
theorem sign_frame (key : κ) (i : ActionIntent) :
    { sign sha256 ed25519 key i with hash := i.hash, signature := i.signature } = i :=
  rfl

theorem sameEffect_sign_iff (key : κ) (i s : ActionIntent) :
    SameEffect s (sign sha256 ed25519 key i) ↔ SameEffect s i :=
  ⟨fun ⟨ha, ht, hp, he, hr⟩ => ⟨ha, ht, hp, he, hr⟩,
    fun ⟨ha, ht, hp, he, hr⟩ => ⟨ha, ht, hp, he, hr⟩⟩

variable {sha256 ed25519}

/-- A transplanted signature: it verifies on the intents that have the hash it
was made on, and whose own fields hash to it. -/
theorem verify_transplant_iff (hideal : ed25519.Ideal) (key : κ) (i s : ActionIntent)
    (hsig : s.signature = (sign sha256 ed25519 key i).signature) :
    verify sha256 ed25519 isprintable (ed25519.publicKey key) s = .ok true ↔
      s.hash = intentHash sha256 i ∧ intentHash sha256 s = intentHash sha256 i := by
  rw [verify_eq_ok_iff, hsig, sign_signature, Base64.b64decode_b64encode]
  constructor
  · rintro ⟨hhash, raw, hraw, hverify⟩
    cases hraw
    have hbytes := hideal.unforgeable _ _ _ hverify
    have hsame : s.hash = intentHash sha256 i := String.encodeUtf8_injective hbytes
    exact ⟨hsame, hhash.symm.trans hsame⟩
  · rintro ⟨hhash, hown⟩
    refine ⟨hhash.trans hown.symm, _, rfl, ?_⟩
    rw [hhash]
    exact hideal.verify_sign key _

/-- With an ideal hash the condition is on the fields. -/
theorem verify_transplant_iff_sameEffect (hsha : Function.Injective sha256)
    (hideal : ed25519.Ideal) (key : κ) (i s : ActionIntent)
    (hsig : s.signature = (sign sha256 ed25519 key i).signature) :
    verify sha256 ed25519 isprintable (ed25519.publicKey key) s = .ok true ↔
      s.hash = (sign sha256 ed25519 key i).hash ∧ SameEffect s i := by
  rw [verify_transplant_iff isprintable hideal key i s hsig, intentHash_eq_iff hsha,
    sign_hash]

end Verification

/-! ### The main results -/

section Main

variable {κ ν : Type} {sha256 : Bytes → String} {ed25519 : SignatureScheme κ ν}

/-- **Signing is sound and complete for what the action does.** The hash
identifies the five fields; a signed intent verifies under the paired key; and
no change to one of the five fields or to the hash survives verification. -/
theorem signing_sound_complete (hsha : Function.Injective sha256)
    (hideal : ed25519.Ideal) (isprintable : Char → Bool) :
    (∀ (a a' t t' e e' r r' : String) (p p' : Parameters),
      computeIntentHash sha256 a t p e r = computeIntentHash sha256 a' t' p' e' r' ↔
        a = a' ∧ t = t' ∧ e = e' ∧ r = r' ∧ ∀ k, p.get? k = p'.get? k) ∧
    ∀ (key : κ) (i : ActionIntent),
      verify sha256 ed25519 isprintable (ed25519.publicKey key)
        (sign sha256 ed25519 key i) = .ok true ∧
      { sign sha256 ed25519 key i with hash := i.hash, signature := i.signature } = i ∧
      ∀ s : ActionIntent,
        s.signature = (sign sha256 ed25519 key i).signature →
        ¬ SameEffect s (sign sha256 ed25519 key i) ∨
          s.hash ≠ (sign sha256 ed25519 key i).hash →
        ∃ err, verify sha256 ed25519 isprintable (ed25519.publicKey key) s =
          .error err := by
  refine ⟨?_, ?_⟩
  · intro a a' t t' e e' r r' p p'
    rw [computeIntentHash_eq_iff hsha]
    constructor
    · rintro ⟨ha, ht, hp, he, hr⟩
      exact ⟨ha, ht, he, hr, hp⟩
    · rintro ⟨ha, ht, he, hr, hp⟩
      exact ⟨ha, ht, hp, he, hr⟩
  · intro key i
    refine ⟨?_, sign_frame sha256 ed25519 key i, ?_⟩
    · rw [verify_transplant_iff isprintable hideal key i _ rfl]
      exact ⟨rfl, rfl⟩
    · -- The signature fits one hash only, and the hash one effect only.
      intro s hsig hchanged
      rcases verify_eq_ok_or_error sha256 ed25519 isprintable (ed25519.publicKey key) s with
        hok | herr
      · rw [verify_transplant_iff_sameEffect isprintable hsha hideal key i s hsig] at hok
        obtain ⟨hhash, heffect⟩ := hok
        rcases hchanged with hchanged | hchanged
        · rw [sameEffect_sign_iff] at hchanged
          exact absurd heffect hchanged
        · exact absurd hhash hchanged
      · exact herr

/-- The intent with another expiry and another declared signer. -/
def withWindow (i : ActionIntent) (expiresAt : DateTime) (signer : String) :
    ActionIntent :=
  { i with expiresAt := expiresAt, signer := signer }

/-- `s` is the intent `j` but for its expiry or its signer. -/
structure WindowTampered (j s : ActionIntent) : Prop where
  agrees : s = withWindow j s.expiresAt s.signer
  differs : s.expiresAt ≠ j.expiresAt ∨ s.signer ≠ j.signer

theorem verify_withWindow_sign (sha256 : Bytes → String) (hideal : ed25519.Ideal)
    (isprintable : Char → Bool) (key : κ) (i : ActionIntent) (expiresAt : DateTime)
    (signer : String) :
    verify sha256 ed25519 isprintable (ed25519.publicKey key)
      (withWindow (sign sha256 ed25519 key i) expiresAt signer) = .ok true := by
  rw [verify_transplant_iff isprintable hideal key i]
  · exact ⟨rfl, rfl⟩
  · rfl

/-- **The authorisation window is not protected.** Whatever the key and the
intent, every change of the expiry or of the signer goes unnoticed. -/
theorem windowTampered_accepted (hideal : ed25519.Ideal) (isprintable : Char → Bool)
    (key : κ) (i s : ActionIntent)
    (htampered : WindowTampered (sign sha256 ed25519 key i) s) :
    ¬ ∃ err, verify sha256 ed25519 isprintable (ed25519.publicKey key) s =
      .error err := by
  rintro ⟨err, herr⟩
  rw [htampered.agrees, verify_withWindow_sign sha256 hideal] at herr
  cases herr

end Main

/-! ### The digest and the signature of the unit test's intent

SHA-256 and Ed25519 on the intent of the unit tests, as ideal functions: their
values there are those the libraries compute, with the first private key of the
published Ed25519 test vectors. -/

def testDigest : String :=
  "d10106895693aafdc374d36bcfeb5b1aeaac54bc7b0dd62a39f0e7e42478049e"

def testRawSignature : Bytes :=
  [12, 186, 57, 97, 99, 12, 106, 224, 76, 73, 25, 74, 124, 104, 45, 89, 67, 191, 201, 211,
    95, 152, 163, 192, 246, 113, 110, 69, 20, 205, 162, 117, 108, 181, 253, 72, 157, 232,
    83, 82, 198, 157, 66, 54, 250, 83, 177, 210, 173, 51, 196, 51, 218, 165, 3, 218, 186,
    74, 9, 47, 178, 16, 13, 9]

/-- The bytes that are hashed for the intent of the unit tests. -/
def testPayload : Bytes :=
  (CompactJson.dumps (intentPayload testIntent.actionType.value testIntent.target
    testIntent.parameters testIntent.expectedEffect testIntent.rollbackHint)).encodeUtf8

def testSha256 : Bytes → String := pinnedHash testPayload testDigest

def testEd25519 : SignatureScheme Unit Unit :=
  .ofFunction (pinned testDigest.encodeUtf8 testRawSignature 0 id)

theorem testSha256_injective : Function.Injective testSha256 :=
  pinnedHash_injective testPayload testDigest

theorem testEd25519_ideal : testEd25519.Ideal :=
  SignatureScheme.ideal_ofFunction
    (pinned_injective testDigest.encodeUtf8 testRawSignature 0 Function.injective_id)

theorem signing_sound_complete_testIntent :
    verify testSha256 testEd25519 (fun _ => true) ()
      (sign testSha256 testEd25519 () testIntent) = .ok true :=
  ((signing_sound_complete testSha256_injective testEd25519_ideal fun _ => true).2
    () testIntent).1

def testSigned : ActionIntent := sign testSha256 testEd25519 () testIntent

/-- The verifier of the unit tests, as the Coordinator calls it. -/
def testCheck : ActionIntent → Except String Unit :=
  check testSha256 testEd25519 (fun _ => true) ()

theorem testCheck_testSigned : testCheck testSigned = .ok () := by
  have hok : verify testSha256 testEd25519 (fun _ => true) () testSigned = .ok true :=
    verify_withWindow_sign testSha256 testEd25519_ideal _ () testIntent
      testIntent.expiresAt testIntent.signer
  rw [testCheck, check, hok]

/-- The signed intent of the unit tests, with its life extended by a day. -/
def testExtended : ActionIntent :=
  withWindow testSigned
    (testIntent.expiresAt.addMicros (DateTime.minutes 1440)) testIntent.signer

theorem testExtended_tampered :
    WindowTampered testSigned testExtended where
  agrees := rfl
  differs := by
    left
    show testIntent.expiresAt.addMicros (DateTime.minutes 1440) ≠ testIntent.expiresAt
    decide

theorem windowTampered_accepted_testExtended :
    WindowTampered testSigned testExtended ∧
      ¬ ∃ err, verify testSha256 testEd25519 (fun _ => true) () testExtended =
        .error err :=
  ⟨testExtended_tampered, windowTampered_accepted testEd25519_ideal (fun _ => true) ()
    testIntent testExtended testExtended_tampered⟩

/-- An intent whose expiry was moved by a day after signing is accepted. -/
theorem not_windowTamperEvident :
    ¬ ∀ (sha256 : Bytes → String) (ed25519 : SignatureScheme Unit Unit),
      Function.Injective sha256 → ed25519.Ideal →
      ∀ (key : Unit) (i s : ActionIntent), WindowTampered (sign sha256 ed25519 key i) s →
        ∃ err, verify sha256 ed25519 (fun _ => true) (ed25519.publicKey key) s =
          .error err := by
  intro h
  obtain ⟨err, herr⟩ := h testSha256 testEd25519 testSha256_injective testEd25519_ideal ()
    testIntent testExtended testExtended_tampered
  rw [testExtended, testSigned, verify_withWindow_sign testSha256 testEd25519_ideal] at herr
  cases herr

end AlphE.Security
