import Mathlib.Tactic.Common

set_option relaxedAutoImplicit false
set_option autoImplicit false

/-!
# The tokens of an SQL statement

A server reads the text of a statement character by character and cuts it into words, symbols and
string literals. How it does that in full depends on the server and its settings. Here it is a
parameter, of which only the plain rules are assumed: words of letters, digits and `_`, blanks,
commas, equality signs, a minus in front of a digit, and that a literal ends at a quote that no
quote follows. Inside a literal nothing is assumed but that a client library can write a value so
that it is read back.

## Main definitions

* `SqlText.Token`, `SqlText.PlainState`, `SqlText.plainStep` — the plain rules; they say nothing
  about other characters.
* `SqlText.Scanner`, `SqlText.Scanner.tokens` — a server's way to read a text.
* `SqlText.Scanner.Plain` — it follows the plain rules.
* `SqlText.Scanner.Escapes` — what a client library writes for a value is read back in a literal.

## Main results

* `SqlText.Scanner.read_append` — texts are read one after the other.
* `SqlText.plainRead_number` — a number is a word, with a minus in front of it or not.
* `SqlText.Scanner.Plain.read_of_plain` — a text within the plain rules is read by them.
* `SqlText.Scanner.Plain.read_literal` — what is written for a value is one literal, and what
  follows behind its quote and a blank is read as if the literal were not there.
-/

namespace SqlText

inductive Token where
  /-- A keyword, an identifier or an unsigned number. -/
  | word (letters : List Char)
  | symbol (c : Char)
  /-- A string literal with this value. -/
  | string (value : List Char)
  deriving DecidableEq, Repr

/-! ## The plain rules -/

/-- What has been read of the current token. -/
inductive PlainState where
  | start
  | word (letters : List Char)
  /-- In a literal in single quotes. -/
  | literal (value : List Char)
  /-- Behind a quote that ends the literal unless another one follows. -/
  | closing (value : List Char)
  | minus
  deriving DecidableEq, Repr

/-- The plain letters of words. -/
def isWordChar (c : Char) : Bool := c.isAlphanum || c == '_'

/-- A character that ends no token or, with `done`, one that it ends: the next state and the
tokens. -/
def plainStart (done : List Token) (c : Char) : Option (PlainState × List Token) :=
  if c = ' ' then some (.start, done)
  else if c = '\'' then some (.literal [], done)
  else if c = '-' then some (.minus, done)
  else if c = ',' ∨ c = '=' then some (.start, done ++ [.symbol c])
  else if isWordChar c then some (.word [c], done)
  else none

/-- One character by the plain rules, if they say what becomes of it: the next state and the tokens
that end with it. -/
def plainStep : PlainState → Char → Option (PlainState × List Token)
  | .start, c => plainStart [] c
  | .word w, c =>
    if isWordChar c then some (.word (w ++ [c]), [])
    -- a literal directly behind a word may belong to it
    else if c = '\'' then none
    else plainStart [.word w] c
  | .literal v, c => if c = '\'' then some (.closing v, []) else none
  | .closing v, c => if c = '\'' then none else plainStart [.string v] c
  | .minus, c => if c.isDigit then some (.word [c], [.symbol '-']) else none

/-- Reading on by the plain rules. -/
def plainRead : PlainState → List Char → Option (PlainState × List Token)
  | s, [] => some (s, [])
  | s, c :: cs =>
    (plainStep s c).bind fun p => (plainRead p.1 cs).map fun q => (q.1, p.2 ++ q.2)

/-- The tokens that end with the text. -/
def plainFinish : PlainState → Option (List Token)
  | .start => some []
  | .word w => some [.word w]
  | .closing v => some [.string v]
  | .literal _ | .minus => none

/-! ## Scanners -/

/-- A server's way to read a text: a step for every character, and what is made of the end. -/
structure Scanner where
  State : Type
  start : State
  step : State → Char → State × List Token
  finish : State → Option (List Token)

namespace Scanner

variable (L : Scanner)

/-- Reading on from a state. -/
def read : L.State → List Char → L.State × List Token
  | s, [] => (s, [])
  | s, c :: cs =>
    let rest := read (L.step s c).1 cs
    (rest.1, (L.step s c).2 ++ rest.2)

/-- The tokens of a statement; `none` if its text does not end where a statement can. -/
def tokens (text : List Char) : Option (List Token) :=
  let all := L.read L.start text
  (L.finish all.1).map (all.2 ++ ·)

/-- The scanner follows the plain rules where they say something, `state` being its own states for
theirs. -/
structure Plain (state : PlainState → L.State) : Prop where
  start : L.start = state .start
  step : ∀ s c t done, plainStep s c = some (t, done) → L.step (state s) c = (state t, done)
  finish : ∀ s done, plainFinish s = some done → L.finish (state s) = some done

/-- What `write` makes of a value, where it succeeds, is read back in a literal, and it is free of
NULs. -/
structure Escapes (state : PlainState → L.State) (write : String → Option String) : Prop where
  read : ∀ src dst, write src = some dst → ∀ value,
    L.read (state (.literal value)) dst.toList = (state (.literal (value ++ src.toList)), [])
  noNul : ∀ src dst, write src = some dst → '\x00' ∉ dst.toList

variable {L} {state : PlainState → L.State} {write : String → Option String}

lemma read_append (s : L.State) (cs ds : List Char) :
    L.read s (cs ++ ds) =
      ((L.read (L.read s cs).1 ds).1, (L.read s cs).2 ++ (L.read (L.read s cs).1 ds).2) := by
  induction cs generalizing s with
  | nil => rfl
  | cons c cs ih =>
    rw [List.cons_append, read, ih, read]
    dsimp only
    rw [List.append_assoc]

/-- A text that reads `done` and is followed by another one. -/
lemma read_append_of {s t u : L.State} {cs ds : List Char} {done rest : List Token}
    (hcs : L.read s cs = (t, done)) (hds : L.read t ds = (u, rest)) :
    L.read s (cs ++ ds) = (u, done ++ rest) := by
  rw [read_append, hcs, hds]

/-- A text within the plain rules is read by them. -/
theorem Plain.read_of_plain (h : L.Plain state) {s t : PlainState} {cs : List Char}
    {done : List Token} (hcs : plainRead s cs = some (t, done)) :
    L.read (state s) cs = (state t, done) := by
  induction cs generalizing s done with
  | nil =>
    cases hcs
    rfl
  | cons c cs ih =>
    obtain ⟨⟨s', first⟩, hstep, hrest⟩ := Option.bind_eq_some_iff.mp hcs
    obtain ⟨⟨t', rest⟩, hread, heq⟩ := Option.map_eq_some_iff.mp hrest
    cases heq
    rw [read, h.step s c s' first hstep, ih hread]

/-- **A literal is one token**, and what follows its quote is read from the start.

**Proof sketch.** What is written for the value leaves the literal open, the quote closes it, and
the blank behind it ends it. -/
theorem Plain.read_literal (h : L.Plain state) (hwrite : L.Escapes state write) {src dst : String}
    (hdst : write src = some dst) {rest : List Char} {t : PlainState} {done : List Token}
    (hrest : plainRead .start (' ' :: rest) = some (t, done)) :
    L.read (state (.literal [])) (dst.toList ++ '\'' :: ' ' :: rest) =
      (state t, .string src.toList :: done) := by
  have hopen := hwrite.read src dst hdst []
  rw [List.nil_append] at hopen
  have hclose : plainRead (.literal src.toList) ('\'' :: ' ' :: rest) =
      some (t, .string src.toList :: done) := by
    obtain ⟨⟨t', toks⟩, hread, heq⟩ := Option.map_eq_some_iff.mp
      (show (plainRead .start rest).map (fun q => (q.1, [] ++ q.2)) = some (t, done) from hrest)
    cases heq
    show ((plainRead .start rest).map fun q => (q.1, [.string src.toList] ++ q.2)).map
      (fun q => (q.1, [] ++ q.2)) = _
    rw [hread]
    rfl
  rw [read_append_of hopen (h.read_of_plain hclose), List.nil_append]

end Scanner

/-! ## Numbers -/

lemma isWordChar_of_isDigit {c : Char} (h : c.isDigit = true) : isWordChar c = true := by
  rw [isWordChar, Char.isAlphanum, h, Bool.or_true, Bool.true_or]

/-- A digit begins a word. -/
lemma plainStart_of_isDigit {c : Char} (h : c.isDigit = true) (done : List Token) :
    plainStart done c = some (.word [c], done) := by
  have hne : ∀ d : Char, d.isDigit = false → c ≠ d := by
    rintro d hd rfl
    exact Bool.false_ne_true (hd.symm.trans h)
  unfold plainStart
  rw [if_neg (hne ' ' rfl), if_neg (hne '\'' rfl), if_neg (hne '-' rfl),
    if_neg (not_or.mpr ⟨hne ',' rfl, hne '=' rfl⟩), if_pos (isWordChar_of_isDigit h)]

/-- Digits continue a word. -/
lemma plainRead_digits {w cs : List Char} (h : ∀ c ∈ cs, c.isDigit = true) :
    plainRead (.word w) cs = some (.word (w ++ cs), []) := by
  induction cs generalizing w with
  | nil => rw [List.append_nil]; rfl
  | cons c cs ih =>
    have hc : plainStep (.word w) c = some (.word (w ++ [c]), []) :=
      if_pos (isWordChar_of_isDigit (h c List.mem_cons_self))
    rw [plainRead, hc, Option.bind_some, ih fun d hd => h d (List.mem_cons_of_mem c hd),
      Option.map_some, List.append_assoc]
    rfl

/-- Digits are a word, with a minus in front of them or not. -/
theorem plainRead_number {cs : List Char} (hne : cs ≠ []) (h : ∀ c ∈ cs, c.isDigit = true)
    (negative : Bool) :
    plainRead .start ((if negative then ['-'] else []) ++ cs) =
      some (.word cs, if negative then [.symbol '-'] else []) := by
  obtain ⟨d, ds, rfl⟩ := List.exists_cons_of_ne_nil hne
  have hd : d.isDigit = true := h d List.mem_cons_self
  have hds := plainRead_digits (w := [d]) fun c hc => h c (List.mem_cons_of_mem d hc)
  cases negative with
  | false =>
    have hstart : plainStep .start d = some (.word [d], []) := plainStart_of_isDigit hd []
    show plainRead .start (d :: ds) = _
    rw [plainRead, hstart, Option.bind_some, hds]
    rfl
  | true =>
    have hminus : plainStep .minus d = some (.word [d], [.symbol '-']) := if_pos hd
    have hstart : plainStep .start '-' = some (.minus, []) := rfl
    show plainRead .start ('-' :: d :: ds) = _
    rw [plainRead, hstart, Option.bind_some, plainRead, hminus, Option.bind_some, hds]
    rfl

end SqlText
