import TransitBpp.Gregorian
import TransitBpp.Passes

/-!
# One step of drift

A code is that of a time step, and a shift by whole periods is a shift of the step. So the three
codes that `verifyTotpCode` compares with are those of three consecutive steps.
-/

namespace TransitBpp.Trv11

variable {hmac : Hmac} {secretBase32 presented : String} {parameters : TotpParameters}
  {secret : List Byte} {atMilliseconds : ℤ}

/-- The time step of an instant. -/
def timeStep (parameters : TotpParameters) (atMilliseconds : ℤ) : ℤ :=
  atMilliseconds / 1000 / parameters.periodSeconds

/-- The code of a time step: that of its first instant. -/
def stepCode (hmac : Hmac) (secretBase32 : String) (parameters : TotpParameters) (step : ℤ) :
    Except Failure String :=
  totpCode hmac secretBase32 (step * parameters.periodSeconds * 1000) parameters

/-- Parameters the code is computed for. -/
structure TotpParameters.Valid (parameters : TotpParameters) : Prop where
  /-- six digits at least -/
  six_le : 6 ≤ parameters.digits
  /-- and ten at most -/
  le_ten : parameters.digits ≤ 10
  /-- a period of a second at least -/
  period_pos : 0 < parameters.periodSeconds

/-- A shift by whole periods is a shift of the step. -/
theorem timeStep_add (h : parameters.Valid) (atMilliseconds step : ℤ) :
    timeStep parameters (atMilliseconds + step * parameters.periodSeconds * 1000) =
      timeStep parameters atMilliseconds + step := by
  have hpos := h.period_pos
  rw [timeStep, Int.add_mul_ediv_right _ _ (by decide), Int.add_mul_ediv_right _ _ (by omega),
    timeStep]

theorem timeStep_mul (h : parameters.Valid) (step : ℤ) :
    timeStep parameters (step * parameters.periodSeconds * 1000) = step := by
  have hadd := timeStep_add h 0 step
  simpa [timeStep] using hadd

/-- From the epoch on, a code depends on the time step alone. -/
theorem totpCode_eq (h : parameters.Valid) (hsecret : decodeBase32 secretBase32 = .ok secret)
    (hat : 0 ≤ timeStep parameters atMilliseconds) :
    totpCode hmac secretBase32 atMilliseconds parameters =
      .ok (Js.padded parameters.digits.toNat
        (truncated (hmac secret (bigEndian (timeStep parameters atMilliseconds).toNat)) %
          10 ^ parameters.digits.toNat : ℕ)) := by
  have hdigits : ¬ (parameters.digits < 6 ∨ 10 < parameters.digits) := by
    have := h.six_le
    have := h.le_ten
    omega
  have hperiod : ¬ parameters.periodSeconds ≤ 0 := by
    have := h.period_pos
    omega
  rw [timeStep] at hat
  rw [totpCode, if_neg hdigits, if_neg hperiod, if_neg (not_lt.mpr hat), hsecret]
  rfl

theorem totpCode_eq_stepCode (h : parameters.Valid) (hsecret : decodeBase32 secretBase32 = .ok secret)
    (hat : 0 ≤ timeStep parameters atMilliseconds) :
    totpCode hmac secretBase32 atMilliseconds parameters =
      stepCode hmac secretBase32 parameters (timeStep parameters atMilliseconds) := by
  have hstep := timeStep_mul h (timeStep parameters atMilliseconds)
  rw [stepCode, totpCode_eq h hsecret hat, totpCode_eq h hsecret (by rw [hstep]; exact hat), hstep]

/-- Every code has the digits it should. -/
theorem digits_of_totpCode {code : String}
    (h : totpCode hmac secretBase32 atMilliseconds parameters = .ok code) :
    (code.toList.length : ℤ) = parameters.digits ∧ ∀ c ∈ code.toList, '0' ≤ c ∧ c ≤ '9' := by
  rw [totpCode] at h
  split at h
  · cases h
  · rename_i hdigits
    split at h
    · cases h
    · dsimp only at h
      split at h
      · cases h
      · obtain ⟨secret, -, h⟩ := Except.bind_ok.mp h
        obtain rfl := Except.ok.inj h
        obtain ⟨hlen, hread⟩ := @Js.padded_digits parameters.digits.toNat _ (by omega)
          (Nat.mod_lt (truncated (hmac secret (bigEndian
            (atMilliseconds / 1000 / parameters.periodSeconds).toNat))) (by positivity))
        refine ⟨by rw [hlen]; omega, fun c hc => ?_⟩
        obtain ⟨hlow, hhigh⟩ := Js.toNat_of_digits hread hc
        exact ⟨hlow, hhigh⟩

/-- The loop compares with every code there is. -/
theorem matchesStep_eq {steps : List ℤ} (hcodes : ∀ step ∈ steps, ∃ code, totpCode hmac secretBase32
      (atMilliseconds + step * parameters.periodSeconds * 1000) parameters = .ok code) :
    ∃ matched, matchesStep hmac secretBase32 presented atMilliseconds parameters steps = .ok matched ∧
      (matched = true ↔ ∃ step ∈ steps, totpCode hmac secretBase32
        (atMilliseconds + step * parameters.periodSeconds * 1000) parameters = .ok presented) := by
  induction steps with
  | nil => exact ⟨false, rfl, by simp⟩
  | cons step steps ih =>
    obtain ⟨candidate, hcandidate⟩ := hcodes step List.mem_cons_self
    obtain ⟨matched, hmatched, hiff⟩ := ih fun step hmem => hcodes step (List.mem_cons_of_mem _ hmem)
    refine ⟨candidate = presented || matched, ?_, ?_⟩
    · rw [matchesStep, hcandidate, hmatched]
      rfl
    · rw [Bool.or_eq_true, decide_eq_true_eq, hiff, List.exists_mem_cons_iff, hcandidate,
        Except.ok.injEq]

/-- What is not digits of the right number is not any code. -/
theorem verifyTotpCode_eq (hcodes : ∀ step ∈ [(-1 : ℤ), 0, 1], ∃ code, totpCode hmac secretBase32
      (atMilliseconds + step * parameters.periodSeconds * 1000) parameters = .ok code) :
    ∃ accepted, verifyTotpCode hmac secretBase32 presented atMilliseconds parameters = .ok accepted ∧
      (accepted = true ↔ ∃ step ∈ [(-1 : ℤ), 0, 1], totpCode hmac secretBase32
        (atMilliseconds + step * parameters.periodSeconds * 1000) parameters = .ok presented) := by
  rw [verifyTotpCode]
  split
  · rename_i hshape
    refine ⟨false, rfl, ?_⟩
    simp only [Bool.false_eq_true, false_iff]
    rintro ⟨step, -, hcode⟩
    obtain ⟨hlen, hdigits⟩ := digits_of_totpCode hcode
    rcases hshape with hlen' | hdigits'
    · exact hlen' hlen
    · exact hdigits' (by simpa using hdigits)
  · exact matchesStep_eq hcodes

/-- HMAC-SHA1 of the first three time steps under the key `12345678901234567890`. -/
def specimenHmac : Hmac := fun _ message =>
  let digest : List ℕ :=
    if message = bigEndian 1 then
      [117, 164, 138, 25, 212, 203, 225, 0, 100, 78, 138, 193, 57,
        126, 234, 116, 122, 45, 51, 171]
    else if message = bigEndian 2 then
      [11, 172, 183, 250, 8, 47, 239, 48, 120, 34, 17, 147, 139,
        193, 197, 231, 4, 22, 255, 68]
    else
      [102, 194, 130, 39, 208, 58, 45, 85, 41, 38, 47, 240, 22,
        161, 230, 239, 118, 85, 126, 206]
  fun i => lowByte (digest.getD i.val 0)

example : totpCode specimenHmac "GEZDGNBVGY3TQOJQGEZDGNBVGY3TQOJQ" 59000 ⟨8, 30⟩ = .ok "94287082" := by
  decide +kernel

end TransitBpp.Trv11
