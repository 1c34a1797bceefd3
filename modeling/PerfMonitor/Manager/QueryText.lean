import PerfMonitor.Manager.PageOffset
import PerfMonitor.Text.SqlText

set_option relaxedAutoImplicit false
set_option autoImplicit false

/-!
# The text of a query and what MySQL reads in it

The queries of `QueryManager` (`manager/src/query_manager.cpp`) put the server's name, which a
client chooses, into the text of the statement, between single quotes and through `EscapeString`.
The text is handed over as a C string, so it ends at its first NUL. How MySQL reads a text, and what
`mysql_real_escape_string` writes, are parameters.

## Main definitions

* `Monitor.escapeString` — what is done to a name.
* `Monitor.HistoryQuery.sentText` — what a query hands to MySQL.
* `Monitor.HistoryQuery.tokens` — the statement a query is meant to be.

## Main results

* `Monitor.HistoryQuery.sent_tokens` — whatever the name, the statement is that one.
-/

namespace Monitor

open SqlText

/-! ## Escaping -/

/-- `EscapeString`. When `mysql_real_escape_string` fails the length is `-1`, to which the buffer
cannot be resized: the exception ends the query. -/
def escapeString (mysqlRealEscapeString : String → Option String) (src : String) :
    Option String :=
  if src = "" then some "" else mysqlRealEscapeString src

/-- What `mysql_query` gets of a text: `c_str()` ends at the first NUL. -/
def cStr (text : String) : List Char := text.toList.takeWhile (· ≠ '\x00')

variable {L : Scanner} {state : PlainState → L.State}
  {mysqlRealEscapeString : String → Option String}

/-- The empty name makes no difference. -/
lemma escapes_escapeString (h : L.Escapes state mysqlRealEscapeString) :
    L.Escapes state (escapeString mysqlRealEscapeString) := by
  refine ⟨fun src dst hdst value => ?_, fun src dst hdst => ?_⟩
  · unfold escapeString at hdst
    split_ifs at hdst with hempty
    · cases hdst
      rw [hempty, String.toList_empty, List.append_nil]
      rfl
    · exact h.read src dst hdst value
  · unfold escapeString at hdst
    split_ifs at hdst with hempty
    · cases hdst
      exact List.not_mem_nil
    · exact h.noNul src dst hdst

/-! ## The statement -/

/-- A number in decimals, a minus sign being a symbol. -/
def numberTokens (n : ℤ) : List Token :=
  (if n < 0 then [.symbol '-'] else []) ++ [.word (Nat.toDigits 10 n.natAbs)]

/-- A keyword or a name. -/
def wordToken (s : String) : Token := .word s.toList

namespace HistoryQuery

/-- The tokens of the keys after `ORDER BY`. -/
def orderTokens : HistoryQuery → List Token
  | netProcessDetail =>
    [wordToken "timestamp", wordToken "DESC", .symbol ',', wordToken "total_bytes_rate",
      wordToken "DESC"]
  | performance | netDetail | diskDetail | cpuDetail => [wordToken "timestamp", wordToken "DESC"]

variable (query : HistoryQuery)

/-- Up to the server's name. -/
def selectTokens : List Token :=
  [wordToken "SELECT", wordToken "SQL_CALC_FOUND_ROWS"] ++
    (query.columns.map wordToken).intersperse (.symbol ',') ++
    [wordToken "FROM", wordToken query.table, wordToken "WHERE", wordToken "server_name",
      .symbol '=']

/-- The statement a query is meant to be: one `SELECT` whose literals are the server's name and the
two ends of the time range. -/
def tokens (serverName startTime endTime : String) (limit offset : ℤ) : List Token :=
  query.selectTokens ++
    [.string serverName.toList, wordToken "AND", wordToken "timestamp", wordToken "BETWEEN",
      .string startTime.toList, wordToken "AND", .string endTime.toList, wordToken "ORDER",
      wordToken "BY"] ++
    query.orderTokens ++ [wordToken "LIMIT"] ++ numberTokens limit ++ [wordToken "OFFSET"] ++
    numberTokens offset

/-- What a query hands to MySQL; nothing when an `EscapeString` fails. -/
def sentText (mysqlRealEscapeString : String → Option String) (localtime : ℤ → Tm)
    (serverName : String) (range : TimeRange) (page pageSize : ℤ) : Option (List Char) :=
  let escape := escapeString mysqlRealEscapeString
  match escape serverName, escape (formatTime localtime range.startTime),
      escape (formatTime localtime range.endTime) with
  | some _, some _, some _ =>
    some (cStr (query.sql (fun src => (escape src).getD "") localtime serverName range page
      pageSize))
  | _, _, _ => none

/-! ## Reading the text -/

/-- The text in front of the server's name. -/
def headText : String :=
  "SELECT SQL_CALC_FOUND_ROWS " ++ ", ".intercalate query.columns ++ " FROM " ++ query.table ++
    " WHERE server_name='"

/-- The text behind the last literal. -/
def orderText : String := "' ORDER BY " ++ query.orderKeys ++ " LIMIT "

lemma toList_headText : query.headText.toList =
    "SELECT SQL_CALC_FOUND_ROWS ".toList ++
      ", ".toList.intercalate (query.columns.map String.toList) ++ " FROM ".toList ++
      query.table.toList ++ " WHERE server_name='".toList := by
  unfold headText
  rw [String.toList_append, String.toList_append, String.toList_append, String.toList_append,
    String.toList_intercalate]

lemma toList_orderText :
    query.orderText.toList =
      "' ORDER BY ".toList ++ query.orderKeys.toList ++ " LIMIT ".toList := by
  unfold orderText
  rw [String.toList_append, String.toList_append]

lemma plainRead_headText :
    plainRead .start query.headText.toList = some (.literal [], query.selectTokens) := by
  rw [toList_headText]
  cases query <;> decide +kernel

lemma nul_notMem_headText : '\x00' ∉ query.headText.toList := by
  rw [toList_headText]
  cases query <;> decide +kernel

lemma nul_notMem_orderText : '\x00' ∉ query.orderText.toList := by
  rw [toList_orderText]
  cases query <;> decide +kernel

end HistoryQuery

lemma toList_toString (n : ℤ) : (toString n).toList =
    (if decide (n < 0) then ['-'] else []) ++ Nat.toDigits 10 n.natAbs := by
  cases n with
  | ofNat m =>
    rw [decide_eq_false (show ¬ Int.ofNat m < 0 from Int.not_lt.mpr (Int.natCast_nonneg m))]
    exact Nat.toList_repr
  | negSucc m =>
    rw [decide_eq_true (Int.negSucc_lt_zero m)]
    show ("-" ++ (m + 1).repr).toList = _
    rw [String.toList_append, Nat.toList_repr]
    rfl

lemma isDigit_of_mem_toDigits {n : ℕ} : ∀ c ∈ Nat.toDigits 10 n, c.isDigit = true :=
  fun _ hc => Nat.isDigit_of_mem_toDigits (by decide) (by decide) hc

/-- A number is read up to its last digit. -/
lemma plainRead_toString (n : ℤ) : plainRead .start (toString n).toList =
    some (.word (Nat.toDigits 10 n.natAbs),
      if decide (n < 0) then [.symbol '-'] else []) := by
  rw [toList_toString]
  exact plainRead_number Nat.toDigits_ne_nil isDigit_of_mem_toDigits _

namespace HistoryQuery

variable (query : HistoryQuery) (localtime : ℤ → Tm) (serverName : String) (range : TimeRange)
  (limit offset : ℤ)

lemma toList_text (escape : String → String) :
    (query.text escape localtime serverName range limit offset).toList =
      query.headText.toList ++ ((escape serverName).toList ++
        '\'' :: ' ' :: "AND timestamp BETWEEN '".toList) ++
        ((escape (formatTime localtime range.startTime)).toList ++
          '\'' :: ' ' :: "AND '".toList) ++
        ((escape (formatTime localtime range.endTime)).toList ++ query.orderText.toList) ++
        (toString limit).toList ++ " OFFSET ".toList ++ (toString offset).toList := by
  have hand : "' AND timestamp BETWEEN '".toList =
      '\'' :: ' ' :: "AND timestamp BETWEEN '".toList := by
    decide +kernel
  have hend : "' AND '".toList = '\'' :: ' ' :: "AND '".toList := by decide +kernel
  rw [← hand, ← hend]
  unfold text selectText headText orderText
  simp only [String.toList_append, List.append_assoc]

/-- The three values of a query are escaped. -/
structure Escaped (write : String → Option String) (escape : String → String) : Prop where
  name : write serverName = some (escape serverName)
  startTime : write (formatTime localtime range.startTime) =
    some (escape (formatTime localtime range.startTime))
  endTime : write (formatTime localtime range.endTime) =
    some (escape (formatTime localtime range.endTime))

variable {query localtime serverName range limit offset} {write : String → Option String}
  {escape : String → String}

/-- What MySQL reads in the text. -/
lemma tokens_text (hplain : L.Plain state) (hwrite : L.Escapes state write)
    (hescaped : Escaped localtime serverName range write escape) :
    L.tokens (query.text escape localtime serverName range limit offset).toList =
      some (query.tokens serverName (formatTime localtime range.startTime)
        (formatTime localtime range.endTime) limit offset) := by
  have hname : L.read (state (.literal []))
      ((escape serverName).toList ++ '\'' :: ' ' :: "AND timestamp BETWEEN '".toList) =
        (state (.literal []), [.string serverName.toList, wordToken "AND", wordToken "timestamp",
          wordToken "BETWEEN"]) :=
    hplain.read_literal hwrite hescaped.name (by decide +kernel)
  have hstart : L.read (state (.literal []))
      ((escape (formatTime localtime range.startTime)).toList ++ '\'' :: ' ' :: "AND '".toList) =
        (state (.literal []), [.string (formatTime localtime range.startTime).toList,
          wordToken "AND"]) :=
    hplain.read_literal hwrite hescaped.startTime (by decide +kernel)
  have hend : L.read (state (.literal []))
      ((escape (formatTime localtime range.endTime)).toList ++ query.orderText.toList) =
        (state .start, .string (formatTime localtime range.endTime).toList ::
          ([wordToken "ORDER", wordToken "BY"] ++ query.orderTokens ++ [wordToken "LIMIT"])) := by
    obtain ⟨rest, hrest, hread⟩ : ∃ rest, query.orderText.toList = '\'' :: ' ' :: rest ∧
        plainRead .start (' ' :: rest) = some (.start,
          [wordToken "ORDER", wordToken "BY"] ++ query.orderTokens ++ [wordToken "LIMIT"]) := by
      refine ⟨query.orderText.toList.drop 2, ?_, ?_⟩
      · rw [toList_orderText]
        cases query <;> decide +kernel
      · rw [toList_orderText]
        cases query <;> decide +kernel
    rw [hrest]
    exact hplain.read_literal hwrite hescaped.endTime hread
  have hoffset : plainRead (.word (Nat.toDigits 10 limit.natAbs)) " OFFSET ".toList =
      some (.start, [.word (Nat.toDigits 10 limit.natAbs), wordToken "OFFSET"]) := by
    have htext : " OFFSET ".toList = [' ', 'O', 'F', 'F', 'S', 'E', 'T', ' '] := by decide +kernel
    rw [htext]
    rfl
  have hhead := hplain.read_of_plain query.plainRead_headText
  rw [Scanner.tokens, hplain.start, toList_text,
    Scanner.read_append_of (Scanner.read_append_of (Scanner.read_append_of (Scanner.read_append_of
      (Scanner.read_append_of (Scanner.read_append_of hhead hname) hstart) hend)
      (hplain.read_of_plain (plainRead_toString limit))) (hplain.read_of_plain hoffset))
      (hplain.read_of_plain (plainRead_toString offset))]
  rw [hplain.finish _ _ rfl]
  simp only [Option.map_some, tokens, numberTokens, List.append_assoc, List.cons_append,
    List.nil_append, decide_eq_true_eq]

/-- The text has no NUL. -/
lemma cStr_text (hwrite : L.Escapes state write)
    (hescaped : Escaped localtime serverName range write escape) :
    cStr (query.text escape localtime serverName range limit offset) =
      (query.text escape localtime serverName range limit offset).toList := by
  have hnumber : ∀ n : ℤ, '\x00' ∉ (toString n).toList := by
    intro n h
    rw [toList_toString, List.mem_append] at h
    rcases h with h | h
    · split_ifs at h
      · exact absurd (List.mem_singleton.mp h) (by decide)
      · cases h
    · exact absurd (isDigit_of_mem_toDigits _ h) (by decide)
  have hmid : '\x00' ∉ '\'' :: ' ' :: "AND timestamp BETWEEN '".toList := by decide +kernel
  have hend : '\x00' ∉ '\'' :: ' ' :: "AND '".toList := by decide +kernel
  have hoffset : '\x00' ∉ " OFFSET ".toList := by decide +kernel
  have hall : '\x00' ∉ (query.text escape localtime serverName range limit offset).toList := by
    rw [toList_text]
    simp only [List.mem_append, not_or]
    exact ⟨⟨⟨⟨⟨⟨query.nul_notMem_headText, hwrite.noNul _ _ hescaped.name, hmid⟩,
      hwrite.noNul _ _ hescaped.startTime, hend⟩, hwrite.noNul _ _ hescaped.endTime,
      query.nul_notMem_orderText⟩, hnumber _⟩, hoffset⟩, hnumber _⟩
  rw [cStr, List.takeWhile_eq_self_iff]
  intro c hc
  rw [decide_eq_true_iff]
  rintro rfl
  exact hall hc

/-- A text is sent when the three values are escaped. -/
lemma sentText_eq_some {page pageSize : ℤ} {text : List Char}
    (h : query.sentText mysqlRealEscapeString localtime serverName range page pageSize =
      some text) :
    ∃ escape, Escaped localtime serverName range (escapeString mysqlRealEscapeString) escape ∧
      text = cStr (query.sql escape localtime serverName range page pageSize) := by
  unfold sentText at h
  dsimp only at h
  split at h
  · rename_i name startTime endTime hname hstart hend
    refine ⟨fun src => (escapeString mysqlRealEscapeString src).getD "", ⟨?_, ?_, ?_⟩,
      (Option.some.inj h).symm⟩
    · rw [hname, Option.getD_some]
    · rw [hstart, Option.getD_some]
    · rw [hend, Option.getD_some]
  · cases h

/-- **A client cannot change the statement.** Whatever name and time range a client asks for, the
text that reaches MySQL is the one `SELECT` of the query, with the name and the ends of the range as
the values of its three literals; provided that MySQL follows the plain rules of SQL texts and that
what `mysql_real_escape_string` writes is read back in a literal.

**Proof sketch.** The text has no NUL, so all of it is sent. Its fixed parts are read to where a
literal begins, and an escaped text is read to the end of that literal, whatever it is. -/
theorem sent_tokens (hplain : L.Plain state) (hwrite : L.Escapes state mysqlRealEscapeString)
    {query : HistoryQuery} {localtime : ℤ → Tm} {serverName : String} {range : TimeRange}
    {page pageSize : ℤ} {text : List Char}
    (hsent : query.sentText mysqlRealEscapeString localtime serverName range page pageSize =
      some text) :
    L.tokens text = some (query.tokens serverName (formatTime localtime range.startTime)
      (formatTime localtime range.endTime) (clampPageSize pageSize)
      (toInt ((clampPage page - 1) * clampPageSize pageSize))) := by
  obtain ⟨escape, hescaped, htext⟩ := sentText_eq_some hsent
  have hread := escapes_escapeString hwrite
  unfold sql at htext
  rw [htext, cStr_text hread hescaped, tokens_text hplain hread hescaped]

end HistoryQuery

/-! ## Backslashes -/

/-- Where a server with backslash escapes is. -/
inductive BackslashState where
  | plain (s : PlainState)
  /-- Behind a backslash in a literal. -/
  | escape (value : List Char)
  /-- Beyond the plain rules. -/
  | other
  deriving DecidableEq, Repr

/-- What a backslash and a character denote in a literal. -/
def unescape : Char → List Char
  | '0' => ['\x00']
  | 'b' => ['\x08']
  | 'n' => ['\n']
  | 'r' => ['\r']
  | 't' => ['\t']
  | 'Z' => ['\x1a']
  -- these two are kept for pattern matching
  | '%' => ['\\', '%']
  | '_' => ['\\', '_']
  | c => [c]

/-- A server that follows the plain rules and reads backslashes in literals. -/
def backslashScanner : Scanner where
  State := BackslashState
  start := .plain .start
  step
    | .plain (.literal v), c =>
      if c = '\\' then (.escape v, [])
      else if c = '\'' then (.plain (.closing v), [])
      else (.plain (.literal (v ++ [c])), [])
    | .plain s, c => ((plainStep s c).map fun p => (.plain p.1, p.2)).getD (.other, [])
    | .escape v, c => (.plain (.literal (v ++ unescape c)), [])
    | .other, _ => (.other, [])
  finish
    | .plain s => plainFinish s
    | .escape _ | .other => none

/-- `mysql_real_escape_string` for one character, on a connection with backslash escapes. -/
def escapeChar : Char → List Char
  | '\x00' => ['\\', '0']
  | '\n' => ['\\', 'n']
  | '\r' => ['\\', 'r']
  | '\\' => ['\\', '\\']
  | '\'' => ['\\', '\'']
  | '"' => ['\\', '"']
  | '\x1a' => ['\\', 'Z']
  | c => [c]

/-- `mysql_real_escape_string` on a connection with backslash escapes, where it does not fail. -/
def backslashEscape (src : String) : Option String :=
  some (String.ofList (src.toList.flatMap escapeChar))

lemma plain_backslashScanner : backslashScanner.Plain .plain where
  start := rfl
  step s c t done h := by
    cases s with
    | literal v =>
      obtain ⟨rfl, heq⟩ : c = '\'' ∧ some (PlainState.closing v, []) = some (t, done) := by
        simpa [plainStep] using h
      cases heq
      rfl
    | start | word | closing | minus =>
      show ((plainStep _ c).map fun p => (BackslashState.plain p.1, p.2)).getD (.other, []) = _
      rw [h]
      rfl
  finish s done h := h

/-- The characters that are escaped. -/
def escapedChars : List Char := ['\x00', '\n', '\r', '\\', '\'', '"', '\x1a']

/-- A character is escaped, or stands for itself. -/
lemma escapeChar_cases (c : Char) :
    c ∈ escapedChars ∨ escapeChar c = [c] ∧ ∀ d ∈ escapedChars, c ≠ d := by
  by_cases h : c ∈ escapedChars
  · exact Or.inl h
  · have hne : ∀ d ∈ escapedChars, c ≠ d := fun d hd heq => h (heq ▸ hd)
    refine Or.inr ⟨?_, hne⟩
    unfold escapeChar
    split
    all_goals first
      | rfl
      | exact absurd rfl (hne _ (by decide))

/-- A character is read back. -/
lemma read_escapeChar (c : Char) (value : List Char) :
    backslashScanner.read (.plain (.literal value)) (escapeChar c) =
      (.plain (.literal (value ++ [c])), []) := by
  rcases escapeChar_cases c with hc | ⟨hc, hne⟩
  · simp only [escapedChars, List.mem_cons, List.not_mem_nil, or_false] at hc
    rcases hc with rfl | rfl | rfl | rfl | rfl | rfl | rfl <;> rfl
  · have hslash : c ≠ '\\' := hne _ (by decide)
    have hquote : c ≠ '\'' := hne _ (by decide)
    rw [hc]
    simp only [Scanner.read, backslashScanner, if_neg hslash, if_neg hquote, List.append_nil]

lemma escapes_backslashEscape : backslashScanner.Escapes .plain backslashEscape := by
  constructor
  · rintro src dst hdst value
    cases hdst
    rw [String.toList_ofList]
    generalize src.toList = cs
    induction cs generalizing value with
    | nil => rw [List.append_nil]; rfl
    | cons c cs ih =>
      rw [List.flatMap_cons, Scanner.read_append_of (read_escapeChar c value) (ih _),
        List.append_assoc]
      rfl
  · rintro src dst hdst hnul
    cases hdst
    rw [String.toList_ofList, List.mem_flatMap] at hnul
    obtain ⟨c, -, hc⟩ := hnul
    rcases escapeChar_cases c with hspecial | ⟨hself, hne⟩
    · simp only [escapedChars, List.mem_cons, List.not_mem_nil, or_false] at hspecial
      rcases hspecial with rfl | rfl | rfl | rfl | rfl | rfl | rfl <;> revert hc <;> decide
    · rw [hself, List.mem_singleton] at hc
      exact hne '\x00' (by decide) hc.symm

/-- A name that would end its literal stays inside it. -/
theorem HistoryQuery.sent_tokens_quotes :
    escapeString backslashEscape "' OR '1'='1" = some "\\' OR \\'1\\'=\\'1" ∧
      ∃ text, HistoryQuery.cpuDetail.sentText backslashEscape gmtime "' OR '1'='1"
          ⟨0, 3600000000000⟩ 2 50 = some text ∧
        backslashScanner.tokens text = some (HistoryQuery.cpuDetail.tokens "' OR '1'='1"
          "1970-01-01 00:00:00" "1970-01-01 01:00:00" 50 50) := by
  refine ⟨by decide +kernel, ?_⟩
  obtain ⟨text, htext⟩ : ∃ text, HistoryQuery.cpuDetail.sentText backslashEscape gmtime
      "' OR '1'='1" ⟨0, 3600000000000⟩ 2 50 = some text :=
    Option.isSome_iff_exists.mp (by decide +kernel)
  have h := HistoryQuery.sent_tokens plain_backslashScanner escapes_backslashEscape htext
  refine ⟨text, htext, h.trans ?_⟩
  have hstart : formatTime gmtime 0 = "1970-01-01 00:00:00" := by decide +kernel
  have hend : formatTime gmtime 3600000000000 = "1970-01-01 01:00:00" := by decide +kernel
  rw [hstart, hend]
  rfl

end Monitor
