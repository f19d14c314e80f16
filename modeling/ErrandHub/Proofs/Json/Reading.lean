/-
Written JSON read back.

`Lexes cs ts` says that a lexer makes the tokens `ts` of the characters `cs` wherever it meets them between two tokens,
as long as the text ends there or a mark follows: a numeral or a word shows its end in no other way (`Lexer.Settled`).
`Reads cs t` says that the characters are read as the value `t` wherever a value may stand. Both hold of a written value
by its parts:

  * `reads_quoted`: a written string is read as its pieces, and `textOf?_pieces` makes the same text of these again,
    whatever characters it holds;
  * `reads_natural`: a written number is read digit by digit, and means itself (`integer?_natural`);
  * `reads_braces`, `reads_brackets`: members in braces and items in brackets are read one by one if their values are,
    since what stands between two commas is read alike in both (`readsParts_commas`).

`ofSymbols?_of_reads` hands the result to the reader of a whole text. A record takes its fields from the members of an
object (`fields?_object_filter`), and a field is read back from what it was written as (`required_of_lookup`,
`optional_of_lookup`).
-/
import ErrandHub.Json.Printer
import ErrandHub.Json.Record
import ErrandHub.Proofs.Text.Ascii
import Mathlib.Data.List.TakeWhile
import Mathlib.Tactic

namespace ErrandHub.Json

/-! ## Characters and tokens -/

namespace Lexer

def run (l : Lexer) (cs : List Char) : Lexer := (cs.map some).foldl step l

@[simp] theorem run_nil (l : Lexer) : run l [] = l := rfl

@[simp] theorem run_cons (l : Lexer) (c : Char) (cs : List Char) : run l (c :: cs) = run (l.step (some c)) cs := rfl

theorem run_append (l : Lexer) (cs cs' : List Char) : run l (cs ++ cs') = run (run l cs) cs' := by
  simp [run]

/-- a lexer that has these tokens, last first, if the text ends or a mark follows -/
structure Settled (l : Lexer) (tokens : List Token) : Prop where
  /-- the tokens at the end of the text -/
  close : l.close = ⟨tokens, .between⟩
  /-- a mark is taken on its own -/
  mark : ∀ {c t}, mark? c = some t → l.step (some c) = ⟨t :: tokens, .between⟩

theorem begin_mark {c : Char} {t : Token} (h : mark? c = some t) (tokens : List Token) :
    begin ⟨tokens, .between⟩ (some c) = ⟨t :: tokens, .between⟩ := by
  unfold mark? at h
  split_ifs at h <;> subst c <;> cases h <;> rfl

theorem inNumeral_mark {c : Char} {t : Token} (h : mark? c = some t) : inNumeral c = false := by
  unfold mark? at h
  split_ifs at h <;> subst c <;> rfl

theorem isLetter_mark {c : Char} {t : Token} (h : mark? c = some t) : isLetter c = false := by
  unfold mark? at h
  split_ifs at h <;> subst c <;> rfl

theorem settled_between (tokens : List Token) : Settled ⟨tokens, .between⟩ tokens where
  close := rfl
  mark h := begin_mark h tokens

/-- a lexer in the middle of a token that ends with the text, or before a mark -/
theorem settled_of_resume {l : Lexer} {tokens : List Token} (closed : l.close = ⟨tokens, .between⟩)
    (ended : ∀ {c t}, mark? c = some t → l.step (some c) = l.resume (some c)) : Settled l tokens := by
  refine ⟨closed, fun {c t} hc => ?_⟩
  rw [ended hc, resume, closed]
  exact begin_mark hc tokens

theorem settled_word (read : List Char) {t : Token} (h : word? (String.ofList read.reverse) = some t)
    (tokens : List Token) : Settled ⟨tokens, .word read⟩ (t :: tokens) := by
  apply settled_of_resume
  · simp only [close, h, add]
  · intro c t hc
    simp only [step, isLetter_mark hc, Bool.false_eq_true, ↓reduceIte]

theorem settled_numeral {read : List Char} {n : Numeral} (h : Numeral.ofChars? read.reverse = some n)
    (tokens : List Token) : Settled ⟨tokens, .numeral read⟩ (.numeral n :: tokens) := by
  apply settled_of_resume
  · simp only [close, h, Option.map_some, add]
  · intro c t hc
    simp only [step, inNumeral_mark hc, Bool.false_eq_true, ↓reduceIte]

theorem run_numeral {cs : List Char} (h : ∀ c ∈ cs, inNumeral c) (tokens : List Token) (read : List Char) :
    run ⟨tokens, .numeral read⟩ cs = ⟨tokens, .numeral (cs.reverse ++ read)⟩ := by
  induction cs generalizing read with
  | nil => rfl
  | cons c cs ih =>
    obtain ⟨hc, hcs⟩ := List.forall_mem_cons.1 h
    have kept : step ⟨tokens, .numeral read⟩ (some c) = ⟨tokens, .numeral (c :: read)⟩ := by
      simp only [step, hc, ↓reduceIte]
    rw [run_cons, kept, ih hcs]
    simp

end Lexer

/-- characters that make these tokens between two others -/
def Lexes (cs : List Char) (ts : List Token) : Prop :=
  ∀ before, (Lexer.run ⟨before, .between⟩ cs).Settled (ts.reverse ++ before)

theorem lexes_nil : Lexes [] [] := fun before => Lexer.settled_between before

/-- a mark parts what stands before it from what follows -/
theorem Lexes.mark {cs cs' : List Char} {ts ts' : List Token} {c : Char} {t : Token} (h : Lexes cs ts)
    (hc : Lexer.mark? c = some t) (h' : Lexes cs' ts') : Lexes (cs ++ c :: cs') (ts ++ t :: ts') := by
  intro before
  rw [Lexer.run_append, Lexer.run_cons, (h before).mark hc]
  simpa using h' (t :: (ts.reverse ++ before))

theorem tokens?_of_lexes {cs : List Char} {ts : List Token} (h : Lexes cs ts) : tokens? (cs.map some) = some ts := by
  have settled := (h []).close
  rw [List.append_nil] at settled
  rw [tokens?, Lexer.finish, show (cs.map some).foldl Lexer.step {} = Lexer.run ⟨[], .between⟩ cs from rfl, settled]
  simp

/-! ## Strings -/

def piece (c : Char) : Piece :=
  if c < ' ' ∧ c ∉ ['\x08', '\x0c', '\n', '\r', '\t'] then .code c.toNat else .char c

def pieces (s : String) : List Piece := s.toList.map piece

theorem step_hexDigit {d : Nat} (h : d < 16) (tokens : List Token) (read : List Piece) (missing value : Nat) :
    Lexer.step ⟨tokens, .code read missing value⟩ (some (Text.hexDigit d)) =
      if missing ≤ 1 then ⟨tokens, .string (.code (value * 16 + d) :: read)⟩
      else ⟨tokens, .code read (missing - 1) (value * 16 + d)⟩ := by
  simp only [Lexer.step, Text.hexDigit?_hexDigit h]

theorem run_code {n : Nat} (h : n < 65536) (tokens : List Token) (read : List Piece) :
    Lexer.run ⟨tokens, .escape read⟩ ('u' :: (Text.toDigits 16 4 n).map Text.hexDigit) =
      ⟨tokens, .string (.code n :: read)⟩ := by
  have begun : Lexer.step ⟨tokens, .escape read⟩ (some 'u') = ⟨tokens, .code read 4 0⟩ := rfl
  have whole : (((0 * 16 + n / 16 / 16 / 16 % 16) * 16 + n / 16 / 16 % 16) * 16 + n / 16 % 16) * 16 + n % 16 = n := by
    omega
  simp only [Text.toDigits, List.nil_append, List.cons_append, List.map_cons, List.map_nil, Lexer.run_cons,
    Lexer.run_nil, begun]
  rw [step_hexDigit (by omega), if_neg (by omega), step_hexDigit (by omega), if_neg (by omega),
    step_hexDigit (by omega), if_neg (by omega), step_hexDigit (by omega), if_pos (by omega), whole]

theorem run_escape (tokens : List Token) (read : List Piece) (c : Char) :
    Lexer.run ⟨tokens, .string read⟩ (escape c) = ⟨tokens, .string (piece c :: read)⟩ := by
  -- the short escapes one by one, then the control characters left over, then what is written plainly
  unfold escape
  split_ifs with quote backslash backspace feed newline carriage tab control
  · subst c; rfl
  · subst c; rfl
  · subst c; rfl
  · subst c; rfl
  · subst c; rfl
  · subst c; rfl
  · subst c; rfl
  · have low : c.toNat < 32 := control
    have code : piece c = .code c.toNat := by simp [piece, control, backspace, feed, newline, carriage, tab]
    have escaped : Lexer.step ⟨tokens, .string read⟩ (some '\\') = ⟨tokens, .escape read⟩ := rfl
    rw [Lexer.run_cons, escaped, run_code (by omega), code]
  · have plain : piece c = .char c := by simp [piece, control]
    simp only [Lexer.run_cons, Lexer.run_nil, Lexer.step, quote, backslash, control, plain, ↓reduceIte]

theorem run_escapes (tokens : List Token) (read : List Piece) (cs : List Char) :
    Lexer.run ⟨tokens, .string read⟩ (cs.flatMap escape) = ⟨tokens, .string ((cs.map piece).reverse ++ read)⟩ := by
  induction cs generalizing read with
  | nil => rfl
  | cons c cs ih =>
    rw [List.flatMap_cons, Lexer.run_append, run_escape, ih]
    simp

theorem lexes_quoted (s : String) : Lexes (quoted s) [.string (pieces s)] := by
  intro before
  have opened : Lexer.step ⟨before, .between⟩ (some '"') = ⟨before, .string []⟩ := rfl
  have closed (read : List Piece) :
      Lexer.step ⟨before, .string read⟩ (some '"') = ⟨.string read.reverse :: before, .between⟩ := rfl
  rw [quoted, List.cons_append, Lexer.run_cons, opened, Lexer.run_append, run_escapes, Lexer.run_cons, closed]
  simpa [pieces] using Lexer.settled_between (.string (pieces s) :: before)

theorem textOf?_pieces (s : String) : textOf? (pieces s) = some s := by
  have spelled (cs read : List Char) :
      (cs.map piece).foldlM Spelling.step ⟨read, none⟩ = some ⟨cs.reverse ++ read, none⟩ := by
    induction cs generalizing read with
    | nil => rfl
    | cons c cs ih =>
      have one : Spelling.step ⟨read, none⟩ (piece c) = some ⟨c :: read, none⟩ := by
        unfold piece
        split_ifs with control
        · have low : c.toNat < 32 := control.1
          have single : Spelling.isHigh c.toNat = false ∧ Spelling.isLow c.toNat = false := by
            simp [Spelling.isHigh, Spelling.isLow]
            omega
          simp [Spelling.step, single.1, single.2]
        · rfl
      rw [List.map_cons, List.foldlM_cons, one]
      simp [ih]
  simp [textOf?, spell?, pieces, spelled]

/-! ## Numbers -/

/-- the decimal digits of a number, most significant first -/
def decimals (n : Nat) : List Nat := if n < 10 then [n] else decimals (n / 10) ++ [n % 10]

theorem decimals_lt {n d : Nat} (h : d ∈ decimals n) : d < 10 := by
  fun_induction decimals n with
  | case1 n small => simp_all
  | case2 n big ih =>
    rw [List.mem_append, List.mem_singleton] at h
    obtain h | rfl := h
    · exact ih h
    · omega

theorem decimals_ne_nil (n : Nat) : decimals n ≠ [] := by
  unfold decimals
  split <;> simp

theorem ofDigits_decimals (n : Nat) : Text.ofDigits 10 (decimals n) = n := by
  fun_induction decimals n with
  | case1 n small => simp [Text.ofDigits]
  | case2 n big ih =>
    rw [Text.ofDigits_concat, ih]
    omega

theorem head_decimals {n : Nat} (h : (decimals n).head? = some 0) : n = 0 := by
  fun_induction decimals n with
  | case1 n small => simpa using h
  | case2 n big ih =>
    rw [List.head?_append_of_ne_nil _ (decimals_ne_nil _)] at h
    have := ih h
    omega

theorem toList_toString (n : Nat) : (toString n).toList = (decimals n).map Nat.digitChar := by
  rw [Nat.toString_eq_repr, Nat.toList_repr]
  fun_induction decimals n with
  | case1 n small => simp [Nat.toDigits_of_lt_base small]
  | case2 n big ih => rw [Nat.toDigits_of_base_le (by decide) (by omega), ih, List.map_append, List.map_singleton]

/-- the numeral that a number is written as -/
def natural (n : Nat) : Numeral := ⟨false, decimals n, [], none⟩

theorem digit?_digitChar {d : Nat} (h : d < 10) : Text.digit? d.digitChar = some d :=
  (Text.digit?_eq_some_iff _ d).2 ⟨h, rfl⟩

theorem takeDigits_digitChars {ds : List Nat} (h : ∀ d ∈ ds, d < 10) :
    Numeral.takeDigits (ds.map Nat.digitChar) = (ds, []) := by
  have digits : ∀ c ∈ ds.map Nat.digitChar, Text.isDigit c = true := by
    intro c hc
    obtain ⟨d, hd, rfl⟩ := List.mem_map.1 hc
    rw [Text.isDigit, digit?_digitChar (h d hd)]
    rfl
  have values : (ds.map Nat.digitChar).filterMap Text.digit? = ds := by
    have each : ∀ d ∈ ds, (Text.digit? ∘ Nat.digitChar) d = some d := fun d hd => digit?_digitChar (h d hd)
    rw [List.filterMap_map, List.filterMap_congr each, List.filterMap_some]
  rw [Numeral.takeDigits, List.takeWhile_eq_self_iff.2 digits, List.dropWhile_eq_nil_iff.2 digits, values]

theorem ofChars?_digitChar {d : Nat} (h : d < 10) (cs : List Char) :
    Numeral.ofChars? (d.digitChar :: cs) = Numeral.unsigned false (d.digitChar :: cs) := by
  interval_cases d <;> rfl

theorem begin_digitChar {d : Nat} (h : d < 10) (tokens : List Token) :
    Lexer.step ⟨tokens, .between⟩ (some d.digitChar) = ⟨tokens, .numeral [d.digitChar]⟩ := by
  interval_cases d <;> rfl

theorem inNumeral_digitChar {d : Nat} (h : d < 10) : Lexer.inNumeral d.digitChar = true := by
  simp [Lexer.inNumeral, Text.isDigit, digit?_digitChar h]

theorem decimals_spare (n d : Nat) (rest : List Nat) : decimals n ≠ 0 :: d :: rest := by
  intro zero
  obtain rfl : n = 0 := head_decimals (by rw [zero]; rfl)
  simp [decimals] at zero

/-- the digits of a number are a numeral, after a sign or without one -/
theorem unsigned_decimals (negative : Bool) (n : Nat) :
    Numeral.unsigned negative ((decimals n).map Nat.digitChar) = some ⟨negative, decimals n, [], none⟩ := by
  have taken : Numeral.takeDigits ((decimals n).map Nat.digitChar) = (decimals n, []) :=
    takeDigits_digitChars fun _ => decimals_lt
  have spare := decimals_spare n
  have some_digit := decimals_ne_nil n
  unfold Numeral.unsigned
  rw [taken]
  split <;> simp_all [Numeral.withExponent]

theorem run_decimals {ds : List Nat} (h : ∀ d ∈ ds, d < 10) (tokens : List Token) (read : List Char) :
    Lexer.run ⟨tokens, .numeral read⟩ (ds.map Nat.digitChar) =
      ⟨tokens, .numeral ((ds.map Nat.digitChar).reverse ++ read)⟩ := by
  apply Lexer.run_numeral
  intro c hc
  obtain ⟨d, hd, rfl⟩ := List.mem_map.1 hc
  exact inNumeral_digitChar (h d hd)

theorem lexes_natural (n : Nat) : Lexes (toString n).toList [.numeral (natural n)] := by
  have numeral := unsigned_decimals false n
  rw [toList_toString]
  intro before
  unfold natural
  cases digits : decimals n with
  | nil => exact absurd digits (decimals_ne_nil n)
  | cons d ds =>
    have small : ∀ e ∈ d :: ds, e < 10 := fun e he => decimals_lt (digits ▸ he)
    obtain ⟨first, rest⟩ := List.forall_mem_cons.1 small
    rw [digits, List.map_cons, ← ofChars?_digitChar first] at numeral
    rw [List.map_cons, Lexer.run_cons, begin_digitChar first, run_decimals rest]
    exact Lexer.settled_numeral (by simpa using numeral) before

theorem integer?_natural {n : Nat} (h : n < UInt64.size) : (natural n).integer? = some (Int.ofNat n) := by
  simp [Numeral.integer?, natural, ofDigits_decimals, h]

/-! ## Values -/

/-- characters that are read as one value wherever a value may stand -/
def Reads (cs : List Char) (t : Tree) : Prop :=
  ∃ ts, Lexes cs ts ∧ ∀ frames, ts.foldl Builder.step (.building .value frames) = Builder.put t frames

theorem reads_quoted (s : String) : Reads (quoted s) (.string (pieces s)) :=
  ⟨[.string (pieces s)], lexes_quoted s, fun _ => rfl⟩

theorem reads_natural (n : Nat) : Reads (toString n).toList (.numeral (natural n)) :=
  ⟨[.numeral (natural n)], lexes_natural n, fun _ => rfl⟩

/-- characters that are read as parts of a container, after those that were read before: the first part of all is
expected in a state of its own -/
def ReadsParts {α : Type} (first next : Expected) (frame : List α → Frame) (cs : List Char) (parts : List α) : Prop :=
  ∃ ts, Lexes cs ts ∧ ∀ expected ∈ [first, next], ∀ done frames,
    ts.foldl Builder.step (.building expected (frame done :: frames)) =
      .building .commaOrEnd (frame (parts.reverse ++ done) :: frames)

/-- characters that are read as members of an object -/
def ReadsMembers : List Char → List (List Piece × Tree) → Prop := ReadsParts .firstName .name .object

/-- characters that are read as items of an array -/
def ReadsItems : List Char → List Tree → Prop := ReadsParts .firstItem .value .array

section Parts

variable {α : Type} {first next : Expected} {frame : List α → Frame}
  (goes_on : ∀ done frames, Builder.step (.building .commaOrEnd (frame done :: frames)) .comma =
    .building next (frame done :: frames))
include goes_on

/-- parts on both sides of a comma are read as parts -/
theorem ReadsParts.comma {cs cs' : List Char} {parts parts' : List α} (h : ReadsParts first next frame cs parts)
    (h' : ReadsParts first next frame cs' parts') :
    ReadsParts first next frame (cs ++ ',' :: cs') (parts ++ parts') := by
  obtain ⟨ts, lexes, built⟩ := h
  obtain ⟨ts', lexes', built'⟩ := h'
  refine ⟨ts ++ .comma :: ts', lexes.mark rfl lexes', ?_⟩
  intro expected he done frames
  rw [List.foldl_append, built expected he, List.foldl_cons, goes_on, built' next (by simp)]
  simp

/-- parts with commas between them are read one after the other -/
theorem readsParts_commas (p : List Char × α) {ps : List (List Char × α)}
    (parts : ∀ q ∈ p :: ps, ReadsParts first next frame q.1 [q.2]) :
    ReadsParts first next frame (commas ((p :: ps).map Prod.fst)) ((p :: ps).map Prod.snd) := by
  induction ps generalizing p with
  | nil => exact parts p List.mem_cons_self
  | cons q ps ih =>
    obtain ⟨part, parts⟩ := List.forall_mem_cons.1 parts
    exact part.comma goes_on (ih q parts)

end Parts

/-- a name, a colon and a value are read as one member -/
theorem Reads.member {cs : List Char} {t : Tree} (h : Reads cs t) (name : String) :
    ReadsMembers (quoted name ++ ':' :: cs) [(pieces name, t)] := by
  obtain ⟨ts, lexes, built⟩ := h
  refine ⟨[.string (pieces name)] ++ .colon :: ts, (lexes_quoted name).mark rfl lexes, ?_⟩
  intro expected he done frames
  have named : Builder.step (.building expected (.object done :: frames)) (.string (pieces name)) =
      .building .colon (.member done (pieces name) :: frames) := by
    simp only [List.mem_cons, List.not_mem_nil, or_false] at he
    obtain rfl | rfl := he <;> rfl
  have parted (frames : List Frame) : Builder.step (.building .colon frames) .colon = .building .value frames := rfl
  rw [List.singleton_append, List.foldl_cons, List.foldl_cons, named, parted, built]
  rfl

/-- where the first item of an array may stand, a value is read as it is anywhere: no value begins with the end of an
array -/
theorem foldl_firstItem {ts : List Token} {t : Tree}
    (built : ∀ frames, ts.foldl Builder.step (.building .value frames) = Builder.put t frames) (frames : List Frame) :
    ts.foldl Builder.step (.building .firstItem frames) = Builder.put t frames := by
  have stuck (ts : List Token) : ts.foldl Builder.step .failed = .failed := by
    induction ts with
    | nil => rfl
    | cons t ts ih => exact ih
  have alone := built []
  have here := built frames
  cases ts with
  | nil => cases alone
  | cons first rest =>
    by_cases closing : first = .closeArray
    · subst closing
      rw [List.foldl_cons, show Builder.step (.building .value []) .closeArray = .failed from rfl, stuck] at alone
      cases alone
    · have same : Builder.step (.building .firstItem frames) first = Builder.step (.building .value frames) first :=
        if_neg closing
      rw [List.foldl_cons, same, ← List.foldl_cons, here]

theorem Reads.item {cs : List Char} {t : Tree} (h : Reads cs t) : ReadsItems cs [t] := by
  obtain ⟨ts, lexes, built⟩ := h
  refine ⟨ts, lexes, ?_⟩
  intro expected he done frames
  simp only [List.mem_cons, List.not_mem_nil, or_false] at he
  obtain rfl | rfl := he
  · exact foldl_firstItem built _
  · exact built _

/-- members in braces are read as an object if their values are read -/
theorem reads_braces {ms : List (String × List Char × Tree)} (values : ∀ m ∈ ms, Reads m.2.1 m.2.2) :
    Reads (braces (ms.map fun m => (m.1, m.2.1))) (.object (ms.map fun m => (pieces m.1, m.2.2))) := by
  rw [braces, List.map_map]
  cases ms with
  | nil => exact ⟨[.openObject, .closeObject], lexes_nil.mark rfl (lexes_nil.mark rfl lexes_nil), fun _ => rfl⟩
  | cons m ms =>
    let part (m : String × List Char × Tree) := (quoted m.1 ++ ':' :: m.2.1, (pieces m.1, m.2.2))
    have parts : ∀ p ∈ (m :: ms).map part, ReadsMembers p.1 [p.2] := by
      intro p hp
      obtain ⟨n, hn, rfl⟩ := List.mem_map.1 hp
      exact (values n hn).member n.1
    obtain ⟨ts, lexes, built⟩ := readsParts_commas (fun _ _ => rfl) (part m) parts
    rw [← List.map_cons, List.map_map] at lexes built
    refine ⟨[] ++ .openObject :: (ts ++ [.closeObject]), lexes_nil.mark rfl (lexes.mark rfl lexes_nil), ?_⟩
    intro frames
    have opened : Builder.step (.building .value frames) .openObject =
        .building .firstName (.object [] :: frames) := rfl
    have closed (members : List (List Piece × Tree)) :
        Builder.step (.building .commaOrEnd (.object members :: frames)) .closeObject =
          Builder.put (.object members.reverse) frames := rfl
    rw [List.nil_append, List.foldl_cons, opened, List.foldl_append, built .firstName (by simp), List.foldl_cons, closed,
      List.append_nil, List.reverse_reverse]
    rfl

/-- items in brackets are read as an array if they are read one by one -/
theorem reads_brackets {ps : List (List Char × Tree)} (values : ∀ p ∈ ps, Reads p.1 p.2) :
    Reads ('[' :: commas (ps.map Prod.fst) ++ [']']) (.array (ps.map Prod.snd)) := by
  cases ps with
  | nil => exact ⟨[.openArray, .closeArray], lexes_nil.mark rfl (lexes_nil.mark rfl lexes_nil), fun _ => rfl⟩
  | cons p ps =>
    obtain ⟨ts, lexes, built⟩ := readsParts_commas (fun _ _ => rfl) p fun q hq => (values q hq).item
    refine ⟨[] ++ .openArray :: (ts ++ [.closeArray]), lexes_nil.mark rfl (lexes.mark rfl lexes_nil), ?_⟩
    intro frames
    have opened : Builder.step (.building .value frames) .openArray = .building .firstItem (.array [] :: frames) := rfl
    have closed (items : List Tree) :
        Builder.step (.building .commaOrEnd (.array items :: frames)) .closeArray =
          Builder.put (.array items.reverse) frames := rfl
    rw [List.nil_append, List.foldl_cons, opened, List.foldl_append, built .firstItem (by simp), List.foldl_cons, closed,
      List.append_nil, List.reverse_reverse]
    rfl

theorem ofSymbols?_of_reads {cs : List Char} {t : Tree} (h : Reads cs t) :
    Tree.ofSymbols? (cs.map some) = some t := by
  obtain ⟨ts, lexes, built⟩ := h
  rw [Tree.ofSymbols?, tokens?_of_lexes lexes, Option.bind_some, Tree.ofTokens?, built []]
  rfl

/-! ## Records -/

theorem named?_pieces (ms : List (String × Tree)) : Tree.named? (ms.map fun m => (pieces m.1, m.2)) = some ms := by
  unfold Tree.named?
  induction ms with
  | nil => rfl
  | cons m ms ih =>
    rw [List.map_cons, List.mapM_cons, textOf?_pieces, ih]
    rfl

theorem distinct_iff {ms : List (String × Tree)} : Tree.distinct ms = true ↔ (ms.map Prod.fst).Nodup := by
  induction ms with
  | nil => simp [Tree.distinct]
  | cons m ms ih =>
    have absent : (!ms.any fun n => n.1 == m.1) = true ↔ m.1 ∉ ms.map Prod.fst := by
      rw [Bool.not_eq_true', List.any_eq_false, List.mem_map]
      simp only [beq_iff_eq, not_exists, not_and]
    rw [Tree.distinct, Bool.and_eq_true, absent, ih, List.map_cons, List.nodup_cons]

/-- the fields of a record, each at most once, are picked out of the members of an object -/
theorem fields?_object_filter (names : List String) {ms : List (String × Tree)} (once : Tree.distinct ms) :
    Tree.fields? names (.object (ms.map fun m => (pieces m.1, m.2))) =
      some (ms.filter fun m => names.contains m.1) := by
  have fields_once : Tree.distinct (ms.filter fun m => names.contains m.1) := by
    rw [distinct_iff] at once ⊢
    exact once.sublist (List.filter_sublist.map Prod.fst)
  rw [Tree.fields?, named?_pieces, Option.bind_some, if_pos fields_once]

/-- members that are fields of a record, each at most once, are its written fields -/
theorem fields?_object {names : List String} {ms : List (String × Tree)} (known : ∀ m ∈ ms, names.contains m.1)
    (once : Tree.distinct ms) : Tree.fields? names (.object (ms.map fun m => (pieces m.1, m.2))) = some ms := by
  rw [fields?_object_filter names once, List.filter_eq_self.2 known]

/-- picking out the fields of a record leaves each field where it was -/
theorem lookup_filter {names : List String} {name : String} (known : name ∈ names) (ms : List (String × Tree)) :
    (ms.filter fun m => names.contains m.1).lookup name = ms.lookup name := by
  induction ms with
  | nil => rfl
  | cons m ms ih =>
    obtain ⟨key, t⟩ := m
    by_cases same : name = key
    · subst same
      rw [List.filter_cons, if_pos (List.contains_iff_mem.2 known), List.lookup_cons_self, List.lookup_cons_self]
    · have other : (name == key) = false := beq_false_of_ne same
      rw [List.filter_cons]
      split
      · rw [List.lookup_cons, List.lookup_cons, other, ih]
      · rw [List.lookup_cons, other, ih]

/-- a field that must be there is read back from what it was written as -/
theorem required_of_lookup {α : Type} {fields : List (String × Tree)} {name : String} {read : Tree → Option α} {t : Tree}
    {v : α} (found : fields.lookup name = some t) (back : read t = some v) :
    Tree.required fields name read = some v := by
  rw [Tree.required, found, Option.bind_some, back]

/-- a field that may be missing is read back, unless what it was written as is null -/
theorem optional_of_lookup {α : Type} {fields : List (String × Tree)} {name : String} {read : Tree → Option α}
    {o : Option α} {write : α → Tree} (found : fields.lookup name = o.map write)
    (back : ∀ v, o = some v → write v ≠ .null ∧ read (write v) = some v) :
    Tree.optional fields name read = some o := by
  rw [Tree.optional, found]
  cases o with
  | none => rfl
  | some v =>
    obtain ⟨value, read⟩ := back v rfl
    rw [Option.map_some]
    split
    · rename_i none
      cases none
    · rename_i null
      exact absurd (Option.some_inj.1 null) value
    · rename_i t _ found
      rw [← Option.some_inj.1 found, read, Option.map_some]

end ErrandHub.Json
