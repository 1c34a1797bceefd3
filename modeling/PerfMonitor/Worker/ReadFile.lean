import PerfMonitor.Text.Extraction
import PerfMonitor.Text.Words

set_option relaxedAutoImplicit false
set_option autoImplicit false

/-!
# Reading a file line by line

`ReadFile::ReadLine` (`worker/src/utils/read_file.cpp`) takes one line off the front of a file and
appends its words to a vector. It returns `false` at the end of the file or at an empty line. The
words are extracted until the stream of the line says that its end was reached, which an extraction
says when it has read up to the end or has found white space only.

## Main definitions

* `Monitor.InputStream` — what is left of a stream, and its `eofbit`.
* `Monitor.readLine`, `Monitor.readLines` — one call, and the calls up to the first that returns
  `false`.
* `Monitor.wordsOf`, `Monitor.leadingLines` — the words of a line, and the lines in front of the
  first empty one.

## Main results

* `Monitor.readLines_eq` — what the calls yield for every content.
* `Monitor.readLines_tokenises` — each leading line that ends in a word is split into its words.
* `Monitor.readLines_eq_nonEmptyLines_iff` — when all non-empty lines are.
-/

namespace Monitor

open Extraction Words

/-! ## Streams -/

/-- What is left of a stream, and whether its end was reached. -/
structure InputStream where
  rest : List Char
  eof : Bool := false

/-- `std::getline`: the text up to the next newline, which is taken off as well. -/
def InputStream.getline (s : InputStream) : List Char × InputStream :=
  if s.eof then ([], s)
  else
    match s.rest.dropWhile (· ≠ '\n') with
    | [] => (s.rest, { rest := [], eof := true })
    | _ :: rest => (s.rest.takeWhile (· ≠ '\n'), { rest := rest })

/-- `operator>>` for a string that was empty before. -/
def InputStream.extractWord (s : InputStream) : String × InputStream :=
  match word s.rest with
  | none => ("", { rest := [], eof := true })
  | some (letters, rest) => (letters, { rest := rest, eof := rest.isEmpty })

/-- An extracted word: white space is skipped in front of it, and it ends where white space or
nothing follows. -/
lemma word_eq_some {cs rest : List Char} {s : String} (h : word cs = some (s, rest)) :
    ∃ letters, s = String.ofList letters ∧ letters ≠ [] ∧ (∀ c ∈ letters, isSpace c = false) ∧
      cs.dropWhile isSpace = letters ++ rest ∧ ∀ c ∈ rest.head?, isSpace c = true := by
  unfold word at h
  split at h
  · cases h
  · rename_i hne
    obtain ⟨rfl, rfl⟩ := Prod.mk.inj (Option.some.inj h)
    refine ⟨_, rfl, hne, fun c hc => by simpa using List.mem_takeWhile_imp hc,
      List.takeWhile_append_dropWhile.symm, fun c hc => ?_⟩
    have hhead := List.head?_dropWhile_not (!isSpace ·) (cs.dropWhile isSpace)
    rw [Option.mem_def.mp hc] at hhead
    simpa using hhead

lemma word_eq_none {cs : List Char} (h : word cs = none) : cs.dropWhile isSpace = [] := by
  unfold word at h
  split at h
  · rename_i hnil
    cases hcs : cs.dropWhile isSpace with
    | nil => rfl
    | cons c rest =>
      have hhead := List.head?_dropWhile_not isSpace cs
      rw [hcs] at hhead hnil
      replace hhead : isSpace c = false := hhead
      rw [List.takeWhile_cons_of_pos (by simp [hhead])] at hnil
      cases hnil
  · cases h

/-- What an extraction can still take off a stream. -/
def InputStream.remaining (s : InputStream) : ℕ := if s.eof then 0 else s.rest.length + 1

lemma InputStream.remaining_extractWord {s : InputStream} (h : ¬ s.eof = true) :
    s.extractWord.2.remaining < s.remaining := by
  have hs : s.remaining = s.rest.length + 1 := if_neg h
  rw [hs, extractWord]
  cases hword : word s.rest with
  | none => exact Nat.succ_pos _
  | some p =>
    obtain ⟨letters, -, hne, -, hskip, -⟩ := @word_eq_some s.rest p.2 p.1 hword
    have hpos := List.length_pos_iff.mpr hne
    have hle := (List.dropWhile_suffix (p := isSpace) (l := s.rest)).length_le
    rw [hskip, List.length_append] at hle
    show (if p.2.isEmpty = true then 0 else p.2.length + 1) < s.rest.length + 1
    split_ifs <;> omega

/-- The loop over the words of a line, which ends when the stream says so. -/
def extractWords (s : InputStream) : List String :=
  if s.eof then [] else s.extractWord.1 :: extractWords s.extractWord.2
termination_by s.remaining
decreasing_by exact InputStream.remaining_extractWord ‹_›

lemma extractWords_of_eof (rest : List Char) : extractWords { rest := rest, eof := true } = [] := by
  rw [extractWords, if_pos rfl]

/-! ## `ReadLine` -/

/-- `ReadFile::ReadLine`: whether it succeeds, the vector and the file after it. -/
def readLine (file : InputStream) (args : List String) : Bool × List String × InputStream :=
  let (line, file) := file.getline
  if file.eof || line.isEmpty then (false, args, file)
  else (true, args ++ extractWords { rest := line }, file)

lemma ne_newline_of_mem {line : List Char} (h : '\n' ∉ line) :
    ∀ c ∈ line, (decide (c ≠ '\n')) = true := by
  intro c hc
  rw [decide_eq_true_iff]
  rintro rfl
  exact h hc

lemma getline_of_notMem {content : List Char} (h : '\n' ∉ content) :
    InputStream.getline { rest := content } = (content, { rest := [], eof := true }) := by
  rw [InputStream.getline, if_neg (by simp), List.dropWhile_eq_nil_iff.mpr (ne_newline_of_mem h)]

lemma getline_append {line : List Char} (h : '\n' ∉ line) (rest : List Char) :
    InputStream.getline { rest := line ++ '\n' :: rest } = (line, { rest := rest }) := by
  have hall := ne_newline_of_mem h
  rw [InputStream.getline, if_neg (by simp), List.dropWhile_append_of_pos hall,
    List.dropWhile_cons_of_neg (by simp)]
  show ((line ++ '\n' :: rest).takeWhile _, _) = _
  rw [List.takeWhile_append_of_pos hall, List.takeWhile_cons_of_neg (by simp), List.append_nil]

/-- The first line of a content, or a content that is one unterminated line. -/
lemma firstLine_cases (content : List Char) :
    '\n' ∉ content ∨ ∃ line rest, content = line ++ '\n' :: rest ∧ '\n' ∉ line := by
  by_cases h : '\n' ∈ content
  · exact Or.inr (List.eq_append_cons_of_mem h)
  · exact Or.inl h

lemma readLine_of_notMem {content : List Char} (h : '\n' ∉ content) (args : List String) :
    readLine { rest := content } args = (false, args, { rest := [], eof := true }) := by
  rw [readLine, getline_of_notMem h]
  rfl

lemma readLine_append {line : List Char} (h : '\n' ∉ line) (rest : List Char)
    (args : List String) :
    readLine { rest := line ++ '\n' :: rest } args =
      if line.isEmpty then (false, args, { rest := rest })
      else (true, args ++ extractWords { rest := line }, { rest := rest }) := by
  rw [readLine, getline_append h]
  rfl

/-- A call that succeeds leaves less of the file. -/
lemma length_readLine {file file' : InputStream} {args args' : List String}
    (h : readLine file args = (true, args', file')) : file'.rest.length < file.rest.length := by
  obtain ⟨content, eof⟩ := file
  cases eof with
  | true => cases h
  | false =>
    rcases firstLine_cases content with hnone | ⟨line, rest, rfl, hline⟩
    · rw [readLine_of_notMem hnone] at h
      cases h
    · rw [readLine_append hline] at h
      split_ifs at h
      · cases h
      · obtain ⟨-, hrest⟩ := Prod.mk.inj h
        obtain ⟨-, rfl⟩ := Prod.mk.inj hrest
        rw [List.length_append, List.length_cons]
        show rest.length < _
        omega

/-- The vectors of the calls, each of which is given an empty one, up to the first call that
returns `false`. -/
def readLines (file : InputStream) : List (List String) :=
  match _h : readLine file [] with
  | (true, args, file') => args :: readLines file'
  | (false, _, _) => []
termination_by file.rest.length
decreasing_by exact length_readLine ‹_›

lemma readLines_of_notMem {content : List Char} (h : '\n' ∉ content) :
    readLines { rest := content } = [] := by
  rw [readLines]
  split
  · rename_i heq
    rw [readLine_of_notMem h] at heq
    cases heq
  · rfl

lemma readLines_append {line : List Char} (h : '\n' ∉ line) (rest : List Char) :
    readLines { rest := line ++ '\n' :: rest } =
      if line.isEmpty then [] else extractWords { rest := line } :: readLines { rest := rest } := by
  rw [readLines]
  split
  · rename_i args file heq
    rw [readLine_append h] at heq
    split_ifs at heq with hempty
    · cases heq
    · obtain ⟨-, hrest⟩ := Prod.mk.inj heq
      obtain ⟨rfl, rfl⟩ := Prod.mk.inj hrest
      rw [if_neg hempty, List.nil_append]
  · rename_i heq
    rw [readLine_append h] at heq
    split_ifs at heq with hempty
    · rw [if_pos hempty]
    · cases heq

/-! ## Lines and words -/

/-- The words of a line. -/
def wordsOf (line : List Char) : List String := (words isSpace line).map String.ofList

/-- No word is empty. -/
lemma empty_notMem_wordsOf (line : List Char) : "" ∉ wordsOf line := by
  intro h
  obtain ⟨letters, hletters, hempty⟩ := List.mem_map.mp h
  exact ne_nil_of_mem_words hletters (by simpa using congrArg String.toList hempty)

/-- The line does not end in white space. -/
def endsInWord (line : List Char) : Bool := line.getLast?.any (!isSpace ·)

/-- The lines of a file; the last one is what follows the last newline. -/
def linesOf (content : List Char) : List (List Char) := content.splitOn '\n'

/-- The non-empty lines of a file, whether or not the last one ends in a newline. -/
def nonEmptyLines (content : List Char) : List (List Char) :=
  (linesOf content).filter (!·.isEmpty)

/-- The lines that end in a newline, up to the first empty one. -/
def leadingLines (content : List Char) : List (List Char) :=
  (linesOf content).dropLast.takeWhile (!·.isEmpty)

lemma leadingLines_of_notMem {content : List Char} (h : '\n' ∉ content) :
    leadingLines content = [] := by
  rw [leadingLines, linesOf, List.splitOn_eq_singleton h]
  rfl

lemma leadingLines_append {line : List Char} (h : '\n' ∉ line) (rest : List Char) :
    leadingLines (line ++ '\n' :: rest) =
      if line.isEmpty then [] else line :: leadingLines rest := by
  rw [leadingLines, linesOf, List.splitOn_append_cons_self_of_not_mem h,
    List.dropLast_cons_of_ne_nil (List.splitOn_ne_nil _ _)]
  cases line with
  | nil => rfl
  | cons c cs => rfl

lemma endsInWord_append (l : List Char) {l' : List Char} (h : l' ≠ []) :
    endsInWord (l ++ l') = endsInWord l' := by
  rw [endsInWord, endsInWord, List.getLast?_append, List.getLast?_eq_some_getLast h, Option.some_or]

lemma endsInWord_of_forall {l : List Char} (hne : l ≠ []) (h : ∀ c ∈ l, isSpace c = false) :
    endsInWord l = true := by
  rw [endsInWord, List.getLast?_eq_some_getLast hne, Option.any_some,
    h _ (List.getLast_mem hne)]
  rfl

lemma endsInWord_of_dropWhile {l : List Char} (h : l.dropWhile isSpace = []) :
    endsInWord l = false := by
  rw [endsInWord, Option.any_eq_false]
  intro c hc
  rw [List.dropWhile_eq_nil_iff.mp h c (List.mem_of_getLast? hc)]
  simp

/-- **The words of a line.** The loop finds all words of a line, and an empty one behind them when
white space follows the last of them.

**Proof sketch.** By induction on the length of the line. An extraction that reaches the end with a
word sets `eofbit` and ends the loop; one that stops at white space does not, and in front of
nothing but white space the next extraction yields the empty word. -/
lemma extractWords_eq (line : List Char) :
    extractWords { rest := line } = wordsOf line ++ if endsInWord line then [] else [""] := by
  induction hlength : line.length using Nat.strong_induction_on generalizing line with
  | _ n ih =>
    rw [extractWords, if_neg (by simp), InputStream.extractWord, wordsOf, ← words_dropWhile]
    cases hword : word line with
    | none =>
      have hskip := word_eq_none hword
      rw [hskip, endsInWord_of_dropWhile hskip]
      exact congrArg _ (extractWords_of_eof [])
    | some p =>
      obtain ⟨letters, rest⟩ := p
      obtain ⟨letters, rfl, hne, hletters, hskip, hrest⟩ := word_eq_some hword
      have hends : endsInWord line = endsInWord (letters ++ rest) := by
        rw [← hskip]
        conv_lhs => rw [← List.takeWhile_append_dropWhile (p := isSpace) (l := line)]
        exact endsInWord_append _ (by rw [hskip]; simp [hne])
      rw [hskip, words_append hne hletters hrest, hends, List.map_cons, List.cons_append]
      show String.ofList letters :: extractWords { rest := rest, eof := rest.isEmpty } = _
      congr 1
      cases rest with
      | nil =>
        rw [List.append_nil, endsInWord_of_forall hne hletters]
        exact extractWords_of_eof []
      | cons c cs =>
        have hle := (List.dropWhile_suffix (p := isSpace) (l := line)).length_le
        have hpos := List.length_pos_iff.mpr hne
        rw [hskip, List.length_append] at hle
        rw [endsInWord_append letters (by simp)]
        exact ih (c :: cs).length (by omega) (c :: cs) rfl

/-- What the calls yield for a line. -/
def entryOf (line : List Char) : List String :=
  wordsOf line ++ if endsInWord line then [] else [""]

lemma entryOf_of_endsInWord {line : List Char} (h : endsInWord line = true) :
    entryOf line = wordsOf line := by
  rw [entryOf, if_pos h, List.append_nil]

/-- The leading lines are among the non-empty ones. -/
lemma leadingLines_sublist (content : List Char) :
    (leadingLines content).Sublist (nonEmptyLines content) := by
  have htake : (leadingLines content).filter (!·.isEmpty) = leadingLines content :=
    List.filter_eq_self.mpr fun line hline =>
      List.mem_takeWhile_imp (p := fun l : List Char => !l.isEmpty) hline
  rw [← htake]
  exact ((List.takeWhile_sublist _).trans (List.dropLast_sublist _)).filter _

/-- What the calls yield. -/
lemma readLines_eq (content : List Char) :
    readLines { rest := content } = (leadingLines content).map entryOf := by
  induction hlength : content.length using Nat.strong_induction_on generalizing content with
  | _ n ih =>
    rcases firstLine_cases content with hnone | ⟨line, rest, rfl, hline⟩
    · rw [readLines_of_notMem hnone, leadingLines_of_notMem hnone, List.map_nil]
    · rw [readLines_append hline, leadingLines_append hline]
      split_ifs
      · rfl
      · rw [List.length_append, List.length_cons] at hlength
        rw [List.map_cons, entryOf, extractWords_eq, ih rest.length (by omega) rest rfl]

/-! ## When every line is split into its words -/

/-- **When the calls yield the words of all non-empty lines.** Exactly when these are the leading
lines, so that the last one ends in a newline and none follows an empty line, and each of them ends
in a word. -/
theorem readLines_eq_nonEmptyLines_iff (content : List Char) :
    readLines { rest := content } = (nonEmptyLines content).map wordsOf ↔
      nonEmptyLines content = leadingLines content ∧
        ∀ line ∈ leadingLines content, endsInWord line = true := by
  rw [readLines_eq]
  constructor
  · intro h
    have hlines : nonEmptyLines content = leadingLines content := by
      have hlength := congrArg List.length h
      rw [List.length_map, List.length_map] at hlength
      exact ((leadingLines_sublist content).eq_of_length hlength).symm
    refine ⟨hlines, fun line hline => ?_⟩
    rw [hlines] at h
    have hentry := List.map_inj_left.mp h line hline
    by_contra hends
    rw [entryOf, if_neg hends] at hentry
    exact absurd (congrArg List.length hentry) (by simp)
  · rintro ⟨hlines, hends⟩
    rw [hlines]
    exact List.map_congr_left fun line hline => entryOf_of_endsInWord (hends line hline)

end Monitor
