/-!
# States

The state of a consent request is a random text that comes back with the answer. It is made of
ASCII letters and digits.
-/

namespace GrantConfig.State

/-- The length of a state unless another one is asked for. -/
def defaultLength : Nat := 32

/-- The characters of states. -/
def alphabet : List Char :=
  "ABCDEFGHIJKLMNOPQRSTUVWXYZabcdefghijklmnopqrstuvwxyz0123456789".toList

/-- The character that a random number stands for. -/
def charOf (n : Nat) : Char := alphabet[n % alphabet.length]?.getD 'A'

/-- Random characters, put in front of those already drawn. -/
def draw {γ : Type} [RandomGen γ] (drawn : List Char) : (length : Nat) → γ → List Char
  | 0, _ => drawn
  | length + 1, gen =>
    let (n, gen) := randNat gen 0 (alphabet.length - 1)
    draw (charOf n :: drawn) length gen

/-- A random state of a length. -/
def generate {γ : Type} [RandomGen γ] (length : Nat) (gen : γ) : String :=
  String.ofList (draw [] length gen)

/-- Every number stands for a character of states. -/
theorem charOf_mem (n : Nat) : charOf n ∈ alphabet := by
  have hlt : n % alphabet.length < alphabet.length := Nat.mod_lt _ (by decide)
  rw [charOf, List.getElem?_eq_getElem hlt]
  exact List.getElem_mem hlt

/-- Different numbers within the alphabet stand for different characters, so none of them comes more
often than another one. -/
theorem charOf_injective {m n : Nat} (hm : m < alphabet.length) (hn : n < alphabet.length)
    (h : charOf m = charOf n) : m = n := by
  have hnodup : alphabet.Nodup := by decide
  rw [charOf, charOf, Nat.mod_eq_of_lt hm, Nat.mod_eq_of_lt hn, List.getElem?_eq_getElem hm,
    List.getElem?_eq_getElem hn] at h
  exact (List.getElem_inj hnodup).mp h

section

variable {γ : Type} [RandomGen γ]

/-- As many characters are drawn as are asked for. -/
theorem length_draw (drawn : List Char) (length : Nat) (gen : γ) :
    (draw drawn length gen).length = length + drawn.length := by
  induction length generalizing drawn gen with
  | zero => rw [draw, Nat.zero_add]
  | succ length ih =>
    rw [draw, ih, List.length_cons]
    omega

/-- All that is drawn is of the alphabet. -/
theorem forall_mem_draw {drawn : List Char} (h : ∀ c ∈ drawn, c ∈ alphabet) (length : Nat)
    (gen : γ) : ∀ c ∈ draw drawn length gen, c ∈ alphabet := by
  induction length generalizing drawn gen with
  | zero => exact h
  | succ length ih => exact ih (List.forall_mem_cons.mpr ⟨charOf_mem _, h⟩) _

/-- A state has the length that is asked for. -/
theorem length_generate (length : Nat) (gen : γ) : (generate length gen).length = length := by
  rw [generate, String.length_ofList, length_draw, List.length_nil, Nat.add_zero]

/-- A state has no other characters than ASCII letters and digits. -/
theorem mem_alphabet_of_mem_generate {length : Nat} {gen : γ} {c : Char}
    (h : c ∈ (generate length gen).toList) : c ∈ alphabet := by
  rw [generate, String.toList_ofList] at h
  exact forall_mem_draw (List.forall_mem_nil _) length gen c h

end

end GrantConfig.State
