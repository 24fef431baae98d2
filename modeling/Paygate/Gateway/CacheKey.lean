import Paygate.Gateway.Summarize

/-!
# The keys of the cache

The key of a text and a model is the hash of the two with a colon between them.  A colon within
the text or the model is written as it is.  So two pairs have one key not only when SHA-256 has a
collision: a part of the model may have moved to the end of the text.
-/

namespace Paygate.Gateway

open Text

/-- What is hashed for the key of a text and a model. -/
def keyInput (text model : List UInt8) : List UInt8 :=
  bytes "v1" ++ bytes ":" ++ text ++ bytes ":" ++ model

/-- Keys are equal exactly if the hashes of what is hashed are. -/
theorem getCacheKey_eq_iff {text model text' model' : List UInt8} :
  getCacheKey text model = getCacheKey text' model'
    ↔ Sha256.sum256 (keyInput text model) = Sha256.sum256 (keyInput text' model')
  := by
  constructor
  · intro h
    exact hexEncode_injective (utf8_injective (List.append_cancel_left h))
  · intro h
    unfold getCacheKey
    rw [← keyInput, ← keyInput, h]

/-- The first part of a model, with the colon before it, has moved to the end of the text. -/
def Moved (text model text' model' : List UInt8) : Prop :=
  ∃ part, text' = text ++ bytes ":" ++ part ∧ model = part ++ bytes ":" ++ model'

theorem Moved.keyInput_eq {text model text' model' : List UInt8} (h : Moved text model text' model') :
  keyInput text model = keyInput text' model'
  := by
  obtain ⟨part, rfl, rfl⟩ := h
  simp only [keyInput, List.append_assoc]

theorem Moved.ne {text model text' model' : List UInt8} (h : Moved text model text' model') :
  text' ≠ text
  := by
  obtain ⟨part, rfl, -⟩ := h
  intro heq
  have hlength := congrArg List.length heq
  simp only [List.length_append] at hlength
  have hcolon : (bytes ":").length = 1 := rfl
  omega

/-- What is hashed is equal for the same text and model only, unless a part of the model has
moved. -/
theorem eq_or_moved {text model text' model' : List UInt8}
    (h : keyInput text model = keyInput text' model') :
  (text = text' ∧ model = model') ∨ Moved text model text' model' ∨ Moved text' model' text model
  := by
  have hcolon : bytes ":" = [0x3A] := rfl
  simp only [keyInput, List.append_assoc] at h
  have hrest := List.append_cancel_left (List.append_cancel_left h)
  simp only [Moved, hcolon, List.singleton_append, List.append_assoc] at hrest ⊢
  obtain ⟨part, htext, hmodel⟩ | ⟨part, htext, hmodel⟩ := List.append_eq_append_iff.mp hrest
  · cases part with
    | nil =>
        rw [List.append_nil] at htext
        exact Or.inl ⟨htext.symm, (List.cons.inj hmodel).2⟩
    | cons c part =>
        obtain ⟨rfl, rfl⟩ := List.cons.inj hmodel
        exact Or.inr (Or.inl ⟨part, htext, rfl⟩)
  · cases part with
    | nil =>
        rw [List.append_nil] at htext
        exact Or.inl ⟨htext, (List.cons.inj hmodel).2.symm⟩
    | cons c part =>
        obtain ⟨rfl, rfl⟩ := List.cons.inj hmodel
        exact Or.inr (Or.inr ⟨part, htext, rfl⟩)

/-- Two pairs of a text and a model that SHA-256 does not confuse have different keys, exactly if
none of them is the other with a part of the model moved to the end of the text. -/
theorem cache_keys_separate_iff {text model text' model' : List UInt8}
    (hsha : Sha256.sum256 (keyInput text model) = Sha256.sum256 (keyInput text' model') →
      keyInput text model = keyInput text' model') :
  (getCacheKey text model = getCacheKey text' model' → text = text' ∧ model = model')
    ↔ ¬ Moved text model text' model' ∧ ¬ Moved text' model' text model
  := by
  rw [getCacheKey_eq_iff]
  constructor
  · intro h
    constructor
    · intro hmoved
      exact hmoved.ne (h (congrArg _ hmoved.keyInput_eq)).1.symm
    · intro hmoved
      exact hmoved.ne (h (congrArg _ hmoved.keyInput_eq.symm)).1
  · rintro ⟨hnot, hnot'⟩ h
    obtain heq | hmoved | hmoved := eq_or_moved (hsha h)
    · exact heq
    · exact absurd hmoved hnot
    · exact absurd hmoved hnot'

/-- Two texts have different keys for the default model. -/
theorem cache_keys_separate_sample :
  getCacheKey (bytes "abc") (bytes "z-ai/glm-4.5-air:free")
      ≠ getCacheKey (bytes "abd") (bytes "z-ai/glm-4.5-air:free")
    ∧ ¬ Moved (bytes "abc") (bytes "z-ai/glm-4.5-air:free") (bytes "abd")
        (bytes "z-ai/glm-4.5-air:free")
  := by
  have hne : Sha256.sum256 (keyInput (bytes "abc") (bytes "z-ai/glm-4.5-air:free"))
      ≠ Sha256.sum256 (keyInput (bytes "abd") (bytes "z-ai/glm-4.5-air:free")) := by
    decide +kernel
  have hkeys : getCacheKey (bytes "abc") (bytes "z-ai/glm-4.5-air:free")
      ≠ getCacheKey (bytes "abd") (bytes "z-ai/glm-4.5-air:free") := by
    rw [ne_eq, getCacheKey_eq_iff]
    exact hne
  use hkeys
  exact ((cache_keys_separate_iff fun h => absurd h hne).mp fun h => absurd h hkeys).1

/-- A text that ends with a colon and the name of the default model without its tag has, for a
model that is named like the tag, the key of the text without them for the default model. -/
theorem moved_model_same_key :
  getCacheKey (bytes "abc") (bytes "z-ai/glm-4.5-air:free")
      = getCacheKey (bytes "abc:z-ai/glm-4.5-air") (bytes "free")
    ∧ bytes "abc" ≠ bytes "abc:z-ai/glm-4.5-air"
  := by
  constructor
  · rw [getCacheKey_eq_iff]
    have hinput : keyInput (bytes "abc") (bytes "z-ai/glm-4.5-air:free")
        = keyInput (bytes "abc:z-ai/glm-4.5-air") (bytes "free") := by
      decide
    rw [hinput]
  · decide

end Paygate.Gateway
