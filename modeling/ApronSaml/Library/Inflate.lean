import Mathlib.Data.List.Basic

/-!
# Decompressing under an output cap

A compressed format reads an input from the front: either it finds one complete stream,
and says what that stream expands to and which bytes follow it, or it finds none. A
decompressor is called once with an input and an output cap. The contract below is what
callers may rely on: the output never exceeds the cap, the end-of-stream flag is raised
exactly when a complete stream expands within the cap, the bytes after it are reported as
unused, and input the cap kept from being processed is reported as unconsumed.
-/

namespace Inflate

/-- What one call reports. -/
structure Inflated where
  data : List UInt8
  eof : Bool
  unusedData : List UInt8
  unconsumedTail : List UInt8
  deriving DecidableEq

/-- A self-delimiting compressed format: the expansion of the stream an input starts with, and the
bytes after that stream. -/
abbrev Format := List UInt8 → Option (List UInt8 × List UInt8)

variable {ε : Type*}

/-- What a caller may rely on when it decompresses at most `cap` bytes of output at once. -/
structure Contract (format : Format) (streamError : ε → Prop)
    (decompress : List UInt8 → ℕ → Except ε Inflated) : Prop where
  bounded : ∀ input cap result, decompress input cap = .ok result → result.data.length ≤ cap
  complete : ∀ input cap out rest, format input = some (out, rest) → out.length ≤ cap →
    decompress input cap = .ok ⟨out, true, rest, []⟩
  sound : ∀ input cap result, decompress input cap = .ok result → result.eof = true →
    format input = some (result.data, result.unusedData)
  raises : ∀ input cap e, decompress input cap = .error e → streamError e

/-- Under the contract, a call reports one whole input stream exactly when the input is one stream
that expands within the cap. -/
theorem Contract.whole_iff {format : Format} {streamError : ε → Prop}
    {decompress : List UInt8 → ℕ → Except ε Inflated} (h : Contract format streamError decompress)
    {input out : List UInt8} {cap : ℕ} :
    decompress input cap = .ok ⟨out, true, [], []⟩ ↔ format input = some (out, []) ∧ out.length ≤ cap := by
  constructor
  · intro hrun
    exact ⟨h.sound input cap _ hrun rfl, h.bounded input cap _ hrun⟩
  · intro hwhole
    obtain ⟨hformat, hcap⟩ := hwhole
    exact h.complete input cap out [] hformat hcap

/-- A decompressor that looks a whole input up in its format before it answers. -/
def ofFormat (format : Format) (streamError : ε) (input : List UInt8) (cap : ℕ) : Except ε Inflated :=
  match format input with
  | none => .error streamError
  | some (out, rest) => if out.length ≤ cap then .ok ⟨out, true, rest, []⟩ else .ok ⟨out.take cap, false, [], input⟩

/-- Every format has a decompressor that meets the contract. -/
theorem ofFormat_contract (format : Format) {streamError : ε → Prop} {e : ε} (he : streamError e) :
    Contract format streamError (ofFormat format e) := by
  constructor
  · intro input cap result h
    unfold ofFormat at h
    split at h
    · contradiction
    · split at h <;> simp only [Except.ok.injEq] at h <;> subst h
      · assumption
      · exact List.length_take_le cap _
  · intro input cap out rest hformat hcap
    simp [ofFormat, hformat, hcap]
  · intro input cap result h heof
    unfold ofFormat at h
    split at h
    · contradiction
    · split at h <;> simp only [Except.ok.injEq] at h <;> subst h
      · assumption
      · simp at heof
  · intro input cap e' h
    unfold ofFormat at h
    split at h
    · simp only [Except.error.injEq] at h
      exact h ▸ he
    · split at h <;> contradiction

end Inflate
