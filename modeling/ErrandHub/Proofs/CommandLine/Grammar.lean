/-
The grammar of the command line.

A command line is a sequence of pairs: an option that names the address for clients with an address that is not blank, or
the option of the configuration file with any text at all. A value is taken as it stands, also one that looks like an option,
so that it is its place that makes a word an option. Every list of words is such a sequence, or one with a rest behind it
that spoils it (`exists_pairs`), and the rest says why.

- `parseAfter_words`, `parseAfter_spoiled`: what pairs add to what was read before them, and that a spoiled rest undoes it.
- `foldl_take_eq`: of the pairs of either kind the last one counts.
- `command_line_followed_exactly`: which command lines are followed and to what, and that every other ends the program.
-/
import ErrandHub.CommandLine
import ErrandHub.Proofs.Text.Blank

namespace ErrandHub.CommandLine

/-! ## The grammar -/

/-- an option with its value -/
inductive Pair where
  /-- an address for clients that is not blank, under either name of the option -/
  | bind (option address : String) (known : option ∈ bindOptions) (visible : Text.trim address ≠ "")
  | config (path : String)

namespace Pair

def words : Pair → List String
  | .bind option address _ _ => [option, address]
  | .config path => ["--config", path]

/-- the address of a pair, as it stands -/
def address? : Pair → Option String
  | .bind _ address _ _ => some address
  | .config _ => none

def path? : Pair → Option String
  | .bind .. => none
  | .config path => some path

end Pair

def words (pairs : List Pair) : List String := pairs.flatMap Pair.words

/-- what a sequence of pairs asks for: the last address and the last configuration file -/
def asked (pairs : List Pair) : Arguments :=
  ⟨(pairs.filterMap Pair.address?).getLast?, (pairs.filterMap Pair.path?).getLast?⟩

/-- words in the place of an option that no pair begins with, and the reason -/
inductive Spoiled : List String → UsageError → Prop where
  | help {o : String} (h : o ∈ helpOptions) (rest : List String) : Spoiled (o :: rest) .help
  | missingValue {o : String} (h : o ∈ bindOptions ∨ o = "--config") : Spoiled [o] .missingValue
  | blankBind {o address : String} (h : o ∈ bindOptions) (blank : Text.trim address = "") (rest : List String) :
    Spoiled (o :: address :: rest) .blankBind
  | unknownArgument {o : String} (h : o ∉ helpOptions ++ bindOptions ++ ["--config"]) (rest : List String) :
    Spoiled (o :: rest) (.unknownArgument o)

/-! ## Reading -/

/-- what has been read after one more pair -/
def Arguments.take (read : Arguments) : Pair → Arguments
  | .bind _ address _ _ => { read with bind := some address }
  | .config path => { read with config := some path }

variable {read : Arguments}

theorem contains_of_mem_bindOptions {o : String} (h : o ∈ bindOptions) :
    helpOptions.contains o = false ∧ bindOptions.contains o = true := by
  revert o
  decide

theorem parseAfter_pair (pair : Pair) (rest : List String) :
    parseAfter read (pair.words ++ rest) = parseAfter (read.take pair) rest := by
  cases pair with
  | bind option address known visible =>
    have hvisible : Text.isBlank address = false := Bool.eq_false_iff.2 (mt Text.isBlank_iff.1 visible)
    obtain ⟨hhelp, hbind⟩ := contains_of_mem_bindOptions known
    simp only [Pair.words, List.cons_append, List.nil_append, parseAfter, hhelp, hbind, hvisible, Bool.false_eq_true,
      if_false, if_true, Arguments.take]
  | config path =>
    rfl

/-- pairs are read one after another, whatever follows them -/
theorem parseAfter_words (pairs : List Pair) (rest : List String) :
    parseAfter read (words pairs ++ rest) = parseAfter (pairs.foldl Arguments.take read) rest := by
  induction pairs generalizing read with
  | nil => rfl
  | cons pair pairs ih =>
    rw [words, List.flatMap_cons, List.append_assoc, parseAfter_pair]
    exact ih

/-- of the pairs of either kind the last one counts, or else what was read before -/
theorem foldl_take_eq (pairs : List Pair) :
    pairs.foldl Arguments.take read = ⟨(asked pairs).bind.or read.bind, (asked pairs).config.or read.config⟩ := by
  induction pairs using List.reverseRecOn with
  | nil => rfl
  | append_singleton pairs pair ih =>
    rw [List.foldl_append, ih]
    cases pair <;> simp [asked, Arguments.take, Pair.address?, Pair.path?]

/-- a rest that spoils the command line is not read, and the reason is given -/
theorem parseAfter_spoiled {rest : List String} {e : UsageError} (h : Spoiled rest e) :
    parseAfter read rest = .error e := by
  cases h with
  | help h rest =>
    cases rest <;> simp only [parseAfter, List.contains_iff_mem.2 h, if_true]
  | @missingValue o h =>
    have hvalued : ∀ o ∈ bindOptions ++ ["--config"], helpOptions.contains o = false ∧
        (bindOptions.contains o || o = "--config") = true := by decide
    obtain ⟨hhelp, hknown⟩ := hvalued o (by simpa using h)
    simp only [parseAfter, hhelp, hknown, Bool.false_eq_true, if_false, if_true]
  | blankBind h blank rest =>
    obtain ⟨hhelp, hbind⟩ := contains_of_mem_bindOptions h
    simp only [parseAfter, hhelp, hbind, Text.isBlank_iff.2 blank, Bool.false_eq_true, if_false, if_true]
  | unknownArgument h rest =>
    simp only [List.mem_append, List.mem_singleton, not_or] at h
    obtain ⟨⟨hhelp, hbind⟩, hconfig⟩ := h
    cases rest <;> simp [parseAfter, hhelp, hbind, hconfig]

/-- every list of words is a sequence of pairs, or one with a rest behind it that spoils it -/
theorem exists_pairs (arguments : List String) : ∃ pairs rest, arguments = words pairs ++ rest ∧
    (rest = [] ∨ ∃ e, Spoiled rest e) := by
  -- a pair is two words, so what is left after one is shorter by two
  induction arguments using List.twoStepInduction with
  | nil => exact ⟨[], [], rfl, .inl rfl⟩
  | singleton o =>
    refine ⟨[], [o], rfl, .inr ?_⟩
    by_cases hhelp : o ∈ helpOptions
    · exact ⟨_, .help hhelp []⟩
    by_cases hvalued : o ∈ bindOptions ∨ o = "--config"
    · exact ⟨_, .missingValue hvalued⟩
    exact ⟨_, .unknownArgument (by simp_all) []⟩
  | cons_cons o value rest ih _ =>
    have hpair (pair : Pair) (hwords : pair.words = [o, value]) :
        ∃ pairs rest', o :: value :: rest = words pairs ++ rest' ∧ (rest' = [] ∨ ∃ e, Spoiled rest' e) := by
      obtain ⟨pairs, rest', hrest, hend⟩ := ih
      refine ⟨pair :: pairs, rest', ?_, hend⟩
      rw [words, List.flatMap_cons, hwords, List.append_assoc, ← words, ← hrest]
      rfl
    by_cases hhelp : o ∈ helpOptions
    · exact ⟨[], _, rfl, .inr ⟨_, .help hhelp _⟩⟩
    by_cases hbind : o ∈ bindOptions
    · by_cases hblank : Text.trim value = ""
      · exact ⟨[], _, rfl, .inr ⟨_, .blankBind hbind hblank rest⟩⟩
      · exact hpair (.bind o value hbind hblank) rfl
    by_cases hconfig : o = "--config"
    · exact hpair (.config value) (by rw [hconfig]; rfl)
    · exact ⟨[], _, rfl, .inr ⟨_, .unknownArgument (by simp_all) _⟩⟩

/-! ## Which command lines are followed -/

theorem parse_words (pairs : List Pair) : parse (words pairs) = .ok (asked pairs) := by
  have h := @parseAfter_words {} pairs []
  rw [List.append_nil, foldl_take_eq] at h
  simpa [parse, parseAfter] using h

theorem parse_spoiled (pairs : List Pair) {rest : List String} {e : UsageError} (h : Spoiled rest e) :
    parse (words pairs ++ rest) = .error e := by
  rw [parse, parseAfter_words, parseAfter_spoiled h]

theorem parse_eq_ok_iff {arguments : List String} {a : Arguments} :
    parse arguments = .ok a ↔ ∃ pairs, arguments = words pairs ∧ a = asked pairs := by
  constructor
  · intro h
    obtain ⟨pairs, rest, rfl, rfl | ⟨e, hspoiled⟩⟩ := exists_pairs arguments
    · rw [List.append_nil, parse_words] at h
      cases h
      exact ⟨pairs, List.append_nil _, rfl⟩
    · rw [parse_spoiled pairs hspoiled] at h
      cases h
  · rintro ⟨pairs, rfl, rfl⟩
    exact parse_words pairs

theorem parse_eq_error_iff {arguments : List String} {e : UsageError} :
    parse arguments = .error e ↔ ∃ pairs rest, arguments = words pairs ++ rest ∧ Spoiled rest e := by
  constructor
  · intro h
    obtain ⟨pairs, rest, rfl, rfl | ⟨e', hspoiled⟩⟩ := exists_pairs arguments
    · rw [List.append_nil, parse_words] at h
      cases h
    · rw [parse_spoiled pairs hspoiled] at h
      cases h
      exact ⟨pairs, rest, rfl, hspoiled⟩
  · rintro ⟨pairs, rest, rfl, hspoiled⟩
    exact parse_spoiled pairs hspoiled

theorem exitStatus_launchWith_ne_two (s : Surroundings) (bind : Option String) (c : Config) :
    (launchWith s bind c).exitStatus ≠ 2 := by
  unfold launchWith
  dsimp only
  split
  · exact nofun
  · split_ifs <;> exact nofun

/-- the program ends with the status of a command line that is not followed only because of the command line -/
theorem exitStatus_launch_eq_two_iff {s : Surroundings} {arguments : List String} :
    (launch s arguments).exitStatus = 2 ↔ ∃ e, parse arguments = .error e := by
  unfold launch
  cases parse arguments with
  | error e => exact ⟨fun _ => ⟨e, rfl⟩, fun _ => rfl⟩
  | ok a =>
    simp only [reduceCtorEq, exists_false, iff_false]
    split
    · exact nofun
    · exact exitStatus_launchWith_ne_two s _ _

/-- pairs ask for the same when those that name an address come before those that name a file -/
theorem asked_sorted (pairs : List Pair) :
    asked (pairs.filter (fun p => p.address?.isSome) ++ pairs.filter (fun p => p.path?.isSome)) = asked pairs := by
  have hkept (f g : Pair → Option String) (h : ∀ p, (if (g p).isSome then f p else none) = f p) :
      (pairs.filter fun p => (g p).isSome).filterMap f = pairs.filterMap f := by
    rw [List.filterMap_filter]
    exact congrArg (fun f => pairs.filterMap f) (funext h)
  have hnone (f g : Pair → Option String) (h : ∀ p, (if (g p).isSome then f p else none) = none) :
      (pairs.filter fun p => (g p).isSome).filterMap f = [] := by
    rw [List.filterMap_filter, List.filterMap_eq_nil_iff]
    exact fun p _ => h p
  have haddress := hkept Pair.address? Pair.address? fun p => by cases p <;> rfl
  have hpath := hkept Pair.path? Pair.path? fun p => by cases p <;> rfl
  have hnoAddress := hnone Pair.address? Pair.path? fun p => by cases p <;> rfl
  have hnoPath := hnone Pair.path? Pair.address? fun p => by cases p <;> rfl
  rw [asked, List.filterMap_append, List.filterMap_append, haddress, hpath, hnoAddress, hnoPath, List.append_nil,
    List.nil_append, asked]

/-- **A command line is followed exactly when it is in the grammar.** It is a sequence of pairs, and then asks for the last
address as it stands and for the last configuration file; in which order the pairs of one kind come among those of the other
makes no difference. Or it has a rest that spoils it: help is asked for in the place of an option, an option has no value, an
address is blank, or a word is no option. Then, and only then, the program ends with status 2, wherever it is started. -/
theorem command_line_followed_exactly (s : Surroundings) (arguments : List String) :
    (∀ a, parse arguments = .ok a ↔ ∃ pairs, arguments = words pairs ∧ a = asked pairs) ∧
    (∀ e, parse arguments = .error e ↔ ∃ pairs rest, arguments = words pairs ++ rest ∧ Spoiled rest e) ∧
    ((launch s arguments).exitStatus = 2 ↔ ¬∃ pairs, arguments = words pairs) ∧
    ∀ pairs, parse (words pairs) =
      parse (words (pairs.filter (fun p => p.address?.isSome) ++ pairs.filter (fun p => p.path?.isSome))) := by
  refine ⟨fun a => parse_eq_ok_iff, fun e => parse_eq_error_iff, ?_, fun pairs => ?_⟩
  · rw [exitStatus_launch_eq_two_iff]
    constructor
    · rintro ⟨e, he⟩ ⟨pairs, rfl⟩
      rw [parse_words] at he
      cases he
    · intro hnot
      cases hparse : parse arguments with
      | error e => exact ⟨e, rfl⟩
      | ok a =>
        obtain ⟨pairs, harguments, -⟩ := parse_eq_ok_iff.1 hparse
        exact absurd ⟨pairs, harguments⟩ hnot
  · rw [parse_words, parse_words, asked_sorted]

example : parse ["--config", "--help", "--listen", " a:1 ", "--bind", "b:2 ", "--config", ""] =
    .ok ⟨some "b:2 ", some ""⟩ := by
  decide

end ErrandHub.CommandLine
