import Mathlib.Algebra.Group.Nat.Defs
import Mathlib.Algebra.Ring.Int.Defs
import Mathlib.Data.List.TakeWhile
import Mathlib.Tactic.Common

set_option relaxedAutoImplicit false
set_option autoImplicit false

/-!
# Formatted input

`operator>>` of an input stream takes one value off the front of the text: it skips white space,
takes the longest prefix that can belong to the value and leaves the rest to the next one. A text
that does not fit, or a number out of range, fails the stream for good. Streams read decimal
numbers, in the classic locale.

## Main definitions

* `Extractor` — one or several extractions: the values and the text that is left, or failure.
* `Extraction.int`, `Extraction.uint64`, `Extraction.word` — the extractions of a signed number of
  32 bits, an unsigned number of 64 bits and a string.
* `Extraction.Reads` — a value is extracted from its text, whatever field follows.

## Main results

* `Extraction.Reads.bind` — fields that are separated by white space are extracted one by one.
* `Extraction.reads_int`, `Extraction.reads_uint64`, `Extraction.reads_word` — what is written in
  front of white space is read back.
-/

/-- Extractions from the text of a stream. -/
abbrev Extractor (α : Type) := StateT (List Char) Option α

namespace Extraction

/-- `isspace`. -/
def isSpace (c : Char) : Bool :=
  c = ' ' || c = '\t' || c = '\n' || c = '\x0b' || c = '\x0c' || c = '\r'

/-- The text after an optional sign, and whether the sign is a minus. -/
def sign : List Char → Bool × List Char
  | '-' :: cs => (true, cs)
  | '+' :: cs => (false, cs)
  | cs => (false, cs)

/-- Whether a decimal number is negative, and its magnitude. -/
def number : Extractor (Bool × ℕ) := fun cs =>
  let signed := sign (cs.dropWhile isSpace)
  match signed.2.takeWhile Char.isDigit with
  | [] => none
  | digits => some ((signed.1, Nat.ofDigitChars 10 digits 0), signed.2.dropWhile Char.isDigit)

/-- `operator>>` for `int`. -/
def int : Extractor ℤ := do
  let (negative, magnitude) ← number
  let value : ℤ := if negative then -magnitude else magnitude
  if -2 ^ 31 ≤ value ∧ value < 2 ^ 31 then return value else failure

/-- `operator>>` for `uint64_t`; a minus sign negates the value. -/
def uint64 : Extractor UInt64 := do
  let (negative, magnitude) ← number
  let value := UInt64.ofNat magnitude
  if magnitude < 2 ^ 64 then return if negative then -value else value else failure

/-- `operator>>` for `std::string`. -/
def word : Extractor String := fun cs =>
  match (cs.dropWhile isSpace).takeWhile fun c => !isSpace c with
  | [] => none
  | letters => some (String.ofList letters, (cs.dropWhile isSpace).dropWhile fun c => !isSpace c)

/-! ## Reading back -/

/-- Nothing follows, or white space does. -/
def Ends (rest : List Char) : Prop := ∀ c ∈ rest.head?, isSpace c = true

/-- The value is extracted from the text, whatever white space ends it. -/
def Reads {α : Type} (p : Extractor α) (text : List Char) (a : α) : Prop :=
  ∀ rest, Ends rest → p (text ++ rest) = some (a, rest)

lemma ends_nil : Ends [] := by
  intro c hc
  cases hc

lemma ends_space_cons (cs : List Char) : Ends (' ' :: cs) := by
  intro c hc
  obtain rfl : ' ' = c := by simpa using hc
  rfl

lemma Ends.append {text rest : List Char} (htext : Ends text) (hrest : Ends rest) :
    Ends (text ++ rest) := by
  cases text with
  | nil => exact hrest
  | cons c cs => exact fun d hd => htext d hd

/-- A class of characters that white space does not belong to ends where a field ends. -/
lemma takeWhile_append_of_ends {p : Char → Bool} (hp : ∀ c, isSpace c = true → p c = false)
    {l rest : List Char} (hl : ∀ c ∈ l, p c = true) (hrest : Ends rest) :
    (l ++ rest).takeWhile p = l ∧ (l ++ rest).dropWhile p = rest := by
  rw [List.takeWhile_append_of_pos hl, List.dropWhile_append_of_pos hl]
  cases rest with
  | nil => exact ⟨List.append_nil l, rfl⟩
  | cons c cs =>
    have hc : p c = false := hp c (hrest c rfl)
    rw [List.takeWhile_cons_of_neg (by simp [hc]), List.dropWhile_cons_of_neg (by simp [hc])]
    exact ⟨List.append_nil l, rfl⟩

section Reads

variable {α β : Type} {p : Extractor α} {f : α → Extractor β} {text rest : List Char} {a : α}
  {b : β}

lemma bind_eq_of_eq_some {cs : List Char} (hp : p cs = some (a, rest)) :
    (p >>= f) cs = f a rest := by
  show (p cs).bind (fun r => f r.1 r.2) = f a rest
  rw [hp, Option.bind_some]

lemma reads_pure (a : α) : Reads (pure a : Extractor α) [] a := fun _ _ => rfl

/-- Fields that are separated by white space are extracted one by one. -/
lemma Reads.bind (hp : Reads p text a) (hf : Reads (f a) rest b) (hrest : Ends rest) :
    Reads (p >>= f) (text ++ rest) b := by
  intro tail htail
  rw [List.append_assoc, bind_eq_of_eq_some (hp _ (hrest.append htail))]
  exact hf tail htail

/-- The text of a whole stream. -/
lemma Reads.run' (hp : Reads p text a) : p.run' text = some a := by
  have h : p text = some (a, []) := by simpa using hp [] ends_nil
  show (p text).map Prod.fst = some a
  rw [h, Option.map_some]

end Reads

/-! ## The fields -/

lemma isDigit_of_isSpace (c : Char) (h : isSpace c = true) : c.isDigit = false := by
  simp only [isSpace, Bool.or_eq_true, decide_eq_true_eq] at h
  rcases h with ((((rfl | rfl) | rfl) | rfl) | rfl) | rfl <;> rfl

lemma isDigit_of_mem_toDigits {n : ℕ} {c : Char} (hc : c ∈ Nat.toDigits 10 n) :
    c.isDigit = true :=
  Nat.isDigit_of_mem_toDigits (by decide) (by decide) hc

/-- A digit is neither white space nor a sign. -/
lemma sign_dropWhile_digits {digits rest : List Char} (hne : digits ≠ [])
    (hdigits : ∀ c ∈ digits, c.isDigit = true) :
    sign ((' ' :: (digits ++ rest)).dropWhile isSpace) = (false, digits ++ rest) := by
  obtain ⟨d, ds, rfl⟩ := List.exists_cons_of_ne_nil hne
  have hd : d.isDigit = true := hdigits d List.mem_cons_self
  have hspace : isSpace d = false := by
    cases h : isSpace d with
    | false => rfl
    | true => exact absurd hd (by rw [isDigit_of_isSpace d h]; decide)
  have hskip : (' ' :: (d :: ds ++ rest)).dropWhile isSpace = d :: ds ++ rest := by
    rw [List.dropWhile_cons_of_pos rfl, List.cons_append,
      List.dropWhile_cons_of_neg (by simp [hspace])]
  rw [hskip, List.cons_append]
  unfold sign
  split
  · rename_i heq
    obtain ⟨rfl, -⟩ := List.cons.inj heq
    cases hd
  · rename_i heq
    obtain ⟨rfl, -⟩ := List.cons.inj heq
    cases hd
  · rfl

/-- A natural number in decimal, after a space. -/
def numberField (n : ℕ) : List Char := ' ' :: Nat.toDigits 10 n

/-- A string after a space. -/
def wordField (s : String) : List Char := ' ' :: s.toList

lemma reads_number (n : ℕ) : Reads number (numberField n) (false, n) := by
  intro rest hrest
  have hdigits : ∀ c ∈ Nat.toDigits 10 n, c.isDigit = true := fun c => isDigit_of_mem_toDigits
  obtain ⟨htake, hdrop⟩ := takeWhile_append_of_ends isDigit_of_isSpace hdigits hrest
  have hne : Nat.toDigits 10 n ≠ [] := Nat.toDigits_ne_nil
  unfold number numberField
  simp only [List.cons_append, sign_dropWhile_digits hne hdigits, htake, hdrop,
    Nat.ofDigitChars_ten_toDigits]

lemma reads_int {n : ℕ} (h : n < 2 ^ 31) : Reads int (numberField n) (n : ℤ) := by
  intro rest hrest
  rw [int, bind_eq_of_eq_some (reads_number n rest hrest)]
  simp only [Bool.false_eq_true, if_false]
  rw [if_pos (by omega)]
  rfl

lemma reads_uint64 (n : UInt64) : Reads uint64 (numberField n.toNat) n := by
  intro rest hrest
  rw [uint64, bind_eq_of_eq_some (reads_number n.toNat rest hrest)]
  simp only [Bool.false_eq_true, if_false, if_pos n.toNat_lt, UInt64.ofNat_toNat]
  rfl

lemma reads_word {s : String} (hne : s.toList ≠ []) (hs : ∀ c ∈ s.toList, isSpace c = false) :
    Reads word (wordField s) s := by
  intro rest hrest
  obtain ⟨d, ds, hsplit⟩ := List.exists_cons_of_ne_nil hne
  have hd : isSpace d = false := hs d (hsplit ▸ List.mem_cons_self)
  have hskip : (wordField s ++ rest).dropWhile isSpace = s.toList ++ rest := by
    rw [wordField, List.cons_append, List.dropWhile_cons_of_pos rfl, hsplit, List.cons_append,
      List.dropWhile_cons_of_neg (by simp [hd])]
  obtain ⟨htake, hdrop⟩ := takeWhile_append_of_ends (p := fun c => !isSpace c)
    (fun c hc => by simp [hc]) (fun c hc => by simp [hs c hc]) hrest
  unfold word
  rw [hskip, htake, hdrop]
  split
  · rename_i h
    exact absurd h hne
  · rw [String.ofList_toList]

lemma ends_numberField (n : ℕ) : Ends (numberField n) := ends_space_cons _

lemma ends_wordField (s : String) : Ends (wordField s) := ends_space_cons _

end Extraction
