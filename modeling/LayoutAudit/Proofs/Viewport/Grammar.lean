import LayoutAudit.Proofs.Viewport.Changes
import Mathlib.Data.List.TakeWhile
import Mathlib.Data.String.Basic

/-!
# Proofs.Viewport.Grammar — what a token can say

A token gives a viewport of its own if it is spelled NAME=WIDTHxHEIGHT, and is looked up in the
catalog if it has no equals sign.  The reader of tokens takes the digits of all scripts for a size
and finds only then that most of them have no value, so that in the end nothing but ASCII digits is
accepted.

* `Text.Trimmed`, `Text.trim_eq_iff` — a text without the blanks at its ends;
* `Text.Numeral`, `Text.digits?_eq_some_iff` — runs of digits and their values;
* `Viewport.parts?_eq_some_iff`, `Viewport.dimension_ok_iff` — the parts of a token;
* `Viewport.SpelledBy`, `Viewport.ofToken_ok_iff` — the grammar of tokens, and their reader;
* `Catalog.token_grammar` — what tokens stand for in a catalog.
-/

namespace LayoutAudit

/-! ## Blanks and digits -/

namespace Text

/-- The rest of a text without the blanks at both of its ends. -/
def Trimmed (text core : String) : Prop :=
  ∃ before behind : List Char, text.toList = before ++ core.toList ++ behind ∧
    (∀ c ∈ before, isBlank c = true) ∧ (∀ c ∈ behind, isBlank c = true) ∧
    (∀ c ∈ core.toList.head?, isBlank c = false) ∧ ∀ c ∈ core.toList.getLast?, isBlank c = false

section

variable {p : Char → Bool}

/-- What ends the run of characters that are dropped is kept, with all that comes behind it. -/
theorem dropWhile_append_eq {front core : List Char} (rest : List Char)
    (hfront : ∀ c ∈ front, p c = true) (hcore : core ≠ []) (hhead : ∀ c ∈ core.head?, p c = false) :
    (front ++ (core ++ rest)).dropWhile p = core ++ rest := by
  rw [List.dropWhile_append_of_pos hfront]
  cases core with
  | nil => exact absurd rfl hcore
  | cons c tail => simp [hhead c rfl]

theorem head?_dropWhile (cs : List Char) : ∀ c ∈ (cs.dropWhile p).head?, p c = false := by
  intro c hc
  have hnot := List.head?_dropWhile_not p cs
  rw [Option.mem_def.1 hc] at hnot
  simpa using hnot

/-- Whatever is cut off at the ends, the rest begins and ends with something else. -/
theorem exists_trimBy (p : Char → Bool) (cs : List Char) :
    ∃ before behind, cs = before ++ trimBy p cs ++ behind ∧
      (∀ c ∈ before, p c = true) ∧ (∀ c ∈ behind, p c = true) ∧
      (∀ c ∈ (trimBy p cs).head?, p c = false) ∧ ∀ c ∈ (trimBy p cs).getLast?, p c = false := by
  have hbehind : cs.dropWhile p =
      trimBy p cs ++ ((cs.dropWhile p).reverse.takeWhile p).reverse := by
    rw [trimBy, ← List.reverse_append, List.takeWhile_append_dropWhile, List.reverse_reverse]
  refine ⟨cs.takeWhile p, ((cs.dropWhile p).reverse.takeWhile p).reverse, ?_, ?_, ?_, ?_, ?_⟩
  · rw [List.append_assoc, ← hbehind, List.takeWhile_append_dropWhile]
  · exact fun c hc => List.mem_takeWhile_imp hc
  · exact fun c hc => List.mem_takeWhile_imp (List.mem_reverse.1 hc)
  · -- What is cut off behind does not change how the rest begins, unless nothing is left.
    intro c hc
    have hhead : (cs.dropWhile p).head? = some c := by
      rw [hbehind, List.head?_append, Option.mem_def.1 hc]
      rfl
    exact head?_dropWhile cs c hhead
  · intro c hc
    rw [trimBy, List.getLast?_reverse] at hc
    exact head?_dropWhile _ c hc

theorem trimBy_eq {before core behind : List Char} (hbefore : ∀ c ∈ before, p c = true)
    (hbehind : ∀ c ∈ behind, p c = true) (hhead : ∀ c ∈ core.head?, p c = false)
    (hlast : ∀ c ∈ core.getLast?, p c = false) :
    trimBy p (before ++ core ++ behind) = core := by
  have hreversed : ∀ c ∈ behind.reverse, p c = true := fun c hc =>
    hbehind c (List.mem_reverse.1 hc)
  by_cases hcore : core = []
  · have hblank : ∀ c ∈ before ++ behind, p c = true := by
      intro c hc
      exact (List.mem_append.1 hc).elim (hbefore c) (hbehind c)
    simp [trimBy, hcore, List.dropWhile_eq_nil_iff.2 hblank]
  · have hlast' : ∀ c ∈ core.reverse.head?, p c = false := by simpa using hlast
    rw [trimBy, List.append_assoc, dropWhile_append_eq behind hbefore hcore hhead,
      List.reverse_append]
    have hback := dropWhile_append_eq [] hreversed (mt List.reverse_eq_nil_iff.1 hcore) hlast'
    rw [List.append_nil] at hback
    rw [hback, List.reverse_reverse]

end

/-- Trimming leaves what is between the blanks. -/
theorem trim_eq_iff {text core : String} : trim text = core ↔ Trimmed text core := by
  constructor
  · rintro rfl
    rcases exists_trimBy isBlank text.toList with ⟨before, behind, hparts⟩
    exact ⟨before, behind, by simpa [trim] using hparts⟩
  · rintro ⟨before, behind, htext, hbefore, hbehind, hhead, hlast⟩
    rw [trim, htext, trimBy_eq hbefore hbehind hhead hlast, String.ofList_toList]

/-- A text is a run of ASCII digits, and this is its value.  Zeros may lead. -/
structure Numeral (cs : List Char) (n : Nat) : Prop where
  nonempty : cs ≠ []
  digits : ∀ c ∈ cs, c.isDigit = true
  value : Nat.ofDigitChars 10 cs 0 = n

/-- Below ten, letters are no digits. -/
theorem digit?_ten (c : Char) :
    digit? 10 c = if c.isDigit then some (c.toNat - '0'.toNat) else none := by
  unfold digit?
  by_cases hdigit : c.isDigit = true
  · have hbound : c.toNat ≤ 57 := by
      simp only [Char.isDigit, Bool.and_eq_true, decide_eq_true_eq] at hdigit
      exact hdigit.2
    have hsmall : c.toNat - 48 < 10 := by omega
    simp [hdigit, hsmall]
  · simp only [hdigit, Bool.false_eq_true, if_false]
    split
    · simp
    · split <;> simp

theorem foldlM_digits (digits : List Char) (start value : Nat) :
    digits.foldlM (fun n c => (digit? 10 c).map (n * 10 + ·)) start = some value ↔
      (∀ c ∈ digits, c.isDigit = true) ∧ Nat.ofDigitChars 10 digits start = value := by
  induction digits generalizing start with
  | nil => simp [pure]
  | cons c rest ih =>
      rw [List.foldlM_cons, digit?_ten, Nat.ofDigitChars_cons]
      by_cases hdigit : c.isDigit = true
      · simp [hdigit, ih, Nat.mul_comm 10]
      · simp [hdigit]

theorem digits?_eq_some_iff {digits : List Char} {value : Nat} :
    digits? 10 digits = some value ↔ Numeral digits value := by
  cases digits with
  | nil =>
      constructor
      · intro h
        cases h
      · intro h
        exact absurd rfl h.nonempty
  | cons c rest =>
      refine (foldlM_digits (c :: rest) 0 value).trans ⟨?_, ?_⟩
      · rintro ⟨hdigits, hvalue⟩
        exact ⟨List.cons_ne_nil c rest, hdigits, hvalue⟩
      · rintro ⟨-, hdigits, hvalue⟩
        exact ⟨hdigits, hvalue⟩

theorem numeral_toDigits (n : Nat) : Numeral (Nat.toDigits 10 n) n where
  nonempty := Nat.toDigits_ne_nil
  digits := fun _ hc => Nat.isDigit_of_mem_toDigits (by decide) (by decide) hc
  value := Nat.ofDigitChars_toDigits (by decide) (by decide)

end Text

/-! ## Tokens with an equals sign -/

namespace Viewport

open Text (Numeral)

/-- ASCII digits belong to the form of a token. -/
theorem isDimensionChar_of_isDigit {c : Char} (h : c.isDigit = true) :
    isDimensionChar c = true := by
  simp only [Char.isDigit, Bool.and_eq_true, decide_eq_true_eq] at h
  have hlow : 0x30 ≤ c.toNat := h.1
  have hhigh : c.toNat ≤ 0x39 := h.2
  simp [isDimensionChar, Text.Ranges.has, Text.Property.decimalDigit, hlow, hhigh]

/-- A token is taken apart in one way only: names have no equals sign, and sizes no `x`. -/
theorem parts?_eq_some_iff {cs name width height : List Char} :
    parts? cs = some (name, width, height) ↔
      cs = name ++ '=' :: (width ++ 'x' :: height) ∧ name ≠ [] ∧ width ≠ [] ∧ height ≠ [] ∧
        (∀ c ∈ name, isNameChar c = true) ∧ (∀ c ∈ width, isDimensionChar c = true) ∧
        ∀ c ∈ height, isDimensionChar c = true := by
  constructor
  · intro h
    unfold parts? at h
    split at h
    case h_2 => cases h
    case h_1 rest hequals =>
      dsimp only at h
      split at h
      case h_2 => cases h
      case h_1 tail hcross =>
        split at h
        · cases h
        · rename_i hnonempty
          split at h
          · rename_i hchars
            cases h
            have hcs := List.takeWhile_append_dropWhile (p := (· ≠ '=')) (l := cs)
            have hrest := List.takeWhile_append_dropWhile (p := isDimensionChar) (l := rest)
            rw [hequals] at hcs
            rw [hcross] at hrest
            simp only [Bool.or_eq_true, List.isEmpty_iff, not_or] at hnonempty
            simp only [Bool.and_eq_true, List.all_eq_true] at hchars
            refine ⟨?_, hnonempty.1.1, hnonempty.1.2, hnonempty.2, hchars.1, ?_, hchars.2⟩
            · rw [hrest, hcs]
            · exact fun c hc => List.mem_takeWhile_imp hc
          · cases h
  · rintro ⟨rfl, hname, hwidth, hheight, hnames, hwidths, hheights⟩
    have hplain : ∀ c ∈ name, decide (c ≠ '=') = true := by
      intro c hc
      have hchar := hnames c hc
      refine decide_eq_true fun hequals => ?_
      rw [hequals] at hchar
      exact absurd hchar (by decide)
    have hcross : isDimensionChar 'x' = false := by decide
    have hdrop : (name ++ '=' :: (width ++ 'x' :: height)).dropWhile (fun c => decide (c ≠ '=')) =
        '=' :: (width ++ 'x' :: height) := by
      rw [List.dropWhile_append_of_pos hplain]
      rfl
    have htake : (name ++ '=' :: (width ++ 'x' :: height)).takeWhile (fun c => decide (c ≠ '=')) =
        name := by
      rw [List.takeWhile_append_of_pos hplain]
      simp
    unfold parts?
    rw [hdrop]
    simp only [htake]
    rw [List.dropWhile_append_of_pos hwidths, List.takeWhile_append_of_pos hwidths,
      List.dropWhile_cons_of_neg (by simp [hcross]), List.takeWhile_cons_of_neg (by simp [hcross])]
    simpa [hname, hwidth, hheight] using ⟨hnames, hheights⟩

/-- A width or height is a numeral of a positive number below the bound. -/
theorem dimension_ok_iff {digits : List Char} {n : Nat} :
    dimension digits = .ok n ↔ Numeral digits n ∧ 1 ≤ n ∧ n < sizeBound := by
  rw [← Text.digits?_eq_some_iff]
  unfold dimension
  cases hdigits : Text.digits? 10 digits with
  | none => simp
  | some m =>
      by_cases hbound : m < sizeBound
      · simp only [Option.filter_some, hbound, decide_true, if_true]
        cases m with
        | zero =>
            simp only [reduceCtorEq, Option.some.injEq, false_iff, not_and]
            omega
        | succ m =>
            simp only [Except.ok.injEq, Option.some.injEq]
            omega
      · simp only [Option.filter_some, hbound, decide_false, Bool.false_eq_true, if_false,
          reduceCtorEq, Option.some.injEq, false_iff, not_and]
        omega

/-- A name that can be given in a token: a word of ASCII letters, digits, underscores, dots and
hyphens. -/
def IsName (name : String) : Prop :=
  name ≠ "" ∧ ∀ c ∈ name.toList, c.isAlphanum = true ∨ c = '_' ∨ c = '.' ∨ c = '-'

/-- A text of the form NAME=WIDTHxHEIGHT that gives a viewport. -/
structure SpelledBy (v : Viewport) (text : String) : Prop where
  parts : ∃ width height, text.toList = v.name.toList ++ '=' :: (width ++ 'x' :: height) ∧
    Numeral width v.width ∧ Numeral height v.height
  name : IsName v.name
  width : 1 ≤ v.width ∧ v.width ≤ 4294967295
  height : 1 ≤ v.height ∧ v.height ≤ 4294967295

theorem isName_iff {name : List Char} :
    IsName (String.ofList name) ↔ name ≠ [] ∧ ∀ c ∈ name, isNameChar c = true := by
  simp [IsName, isNameChar, or_assoc, String.ofList_eq_empty_iff]

/-- Exactly the texts that spell a viewport are read, as the viewport that they spell. -/
theorem ofToken_ok_iff {text : String} {v : Viewport} : ofToken text = .ok v ↔ v.SpelledBy text := by
  have hbound (n : Nat) : n < sizeBound ↔ n ≤ 4294967295 := Nat.lt_succ_iff
  constructor
  · intro h
    unfold ofToken at h
    split at h
    · cases h
    · rename_i name width height hparts
      rcases parts?_eq_some_iff.1 hparts with ⟨htext, hname, -, -, hnames, -, -⟩
      rcases exists_of_bind_ok h with ⟨w, hw, h⟩
      rcases exists_of_map_ok h with ⟨n, hn, rfl⟩
      rcases dimension_ok_iff.1 hw with ⟨hwidth, hpositive, hsmall⟩
      rcases dimension_ok_iff.1 hn with ⟨hheight, hpositive', hsmall'⟩
      exact ⟨⟨width, height, by simpa using htext, hwidth, hheight⟩, isName_iff.2 ⟨hname, hnames⟩,
        ⟨hpositive, (hbound w).1 hsmall⟩, hpositive', (hbound n).1 hsmall'⟩
  · rintro ⟨⟨width, height, htext, hwidth, hheight⟩, hname, hwidths, hheights⟩
    have hnames := isName_iff.1 ((String.ofList_toList (s := v.name)).symm ▸ hname)
    have hparts : parts? text.toList = some (v.name.toList, width, height) :=
      parts?_eq_some_iff.2 ⟨htext, hnames.1, hwidth.nonempty, hheight.nonempty, hnames.2,
        fun c hc => isDimensionChar_of_isDigit (hwidth.digits c hc),
        fun c hc => isDimensionChar_of_isDigit (hheight.digits c hc)⟩
    have hw : dimension width = .ok v.width :=
      dimension_ok_iff.2 ⟨hwidth, hwidths.1, (hbound _).2 hwidths.2⟩
    have hn : dimension height = .ok v.height :=
      dimension_ok_iff.2 ⟨hheight, hheights.1, (hbound _).2 hheights.2⟩
    simp [ofToken, hparts, hw, hn, bind, Except.bind, pure, Except.pure]

/-- Letters and digits are three runs of characters. -/
theorem toNat_of_isAlphanum {c : Char} (h : c.isAlphanum = true) :
    ((65 ≤ c.toNat ∧ c.toNat ≤ 90) ∨ (97 ≤ c.toNat ∧ c.toNat ≤ 122)) ∨
      (48 ≤ c.toNat ∧ c.toNat ≤ 57) := by
  rcases Bool.or_eq_true_iff.1 h with halpha | hdigit
  · rcases Bool.or_eq_true_iff.1 halpha with hupper | hlower
    · exact .inl (.inl (of_decide_eq_true hupper))
    · rcases Bool.and_eq_true_iff.1 hlower with ⟨hleast, hmost⟩
      exact .inl (.inr ⟨of_decide_eq_true hleast, of_decide_eq_true hmost⟩)
  · rcases Bool.and_eq_true_iff.1 hdigit with ⟨hleast, hmost⟩
    exact .inr ⟨of_decide_eq_true hleast, of_decide_eq_true hmost⟩

theorem isBlank_of_isAlphanum {c : Char} (h : c.isAlphanum = true) : Text.isBlank c = false := by
  have hruns := toNat_of_isAlphanum h
  simp [Text.isBlank, Text.Ranges.has, Text.blanks]
  omega

theorem SpelledBy.mem_equals {v : Viewport} {text : String} (h : v.SpelledBy text) :
    '=' ∈ text.toList := by
  rcases h.parts with ⟨width, height, htext, -, -⟩
  simp [htext]

/-- A text that spells a viewport begins with a letter of its name and ends with a digit. -/
theorem SpelledBy.trim_eq {v : Viewport} {text : String} (h : v.SpelledBy text) :
    Text.trim text = text := by
  rcases h.parts with ⟨width, height, htext, -, hheight⟩
  refine Text.trim_eq_iff.2 ⟨[], [], by simp, by simp, by simp, ?_, ?_⟩
  · intro c hc
    have hname : v.name.toList ≠ [] := mt String.toList_eq_nil_iff.1 h.name.1
    rw [htext, List.head?_append_of_ne_nil _ hname] at hc
    rcases h.name.2 c (List.mem_of_mem_head? hc) with hword | rfl | rfl | rfl
    · exact isBlank_of_isAlphanum hword
    all_goals decide
  · intro c hc
    have hfront : text.toList = (v.name.toList ++ '=' :: (width ++ ['x'])) ++ height := by
      simp [htext]
    rw [hfront, List.getLast?_append_of_ne_nil _ hheight.nonempty] at hc
    have hdigit := hheight.digits c (List.mem_of_getLast? hc)
    exact isBlank_of_isAlphanum (by simp [Char.isAlphanum, hdigit])

/-- The token of a viewport, as it is written in a run file. -/
def token (v : Viewport) : String := v.name ++ "=" ++ v.sizeText

theorem spelledBy_token {v : Viewport} (hname : IsName v.name)
    (hwidth : 1 ≤ v.width ∧ v.width ≤ 4294967295)
    (hheight : 1 ≤ v.height ∧ v.height ≤ 4294967295) : v.SpelledBy v.token where
  parts := by
    refine ⟨Nat.toDigits 10 v.width, Nat.toDigits 10 v.height, ?_, Text.numeral_toDigits _,
      Text.numeral_toDigits _⟩
    simp [token, sizeText, Nat.toList_repr]
  name := hname
  width := hwidth
  height := hheight

end Viewport

/-! ## Tokens in a catalog -/

namespace Catalog

variable {c : Catalog}

theorem exists_preset?_iff (key : String) : (∃ v, c.preset? key = some v) ↔ key ∈ c.names := by
  simp [preset?, names, ← Option.isSome_iff_exists]

theorem exists_group?_iff (key : String) :
    (∃ members, c.group? key = some members) ↔ key ∈ c.groups.map Prod.fst := by
  rw [group?]
  induction c.groups with
  | nil => simp
  | cons group rest ih =>
      by_cases hkey : key = group.1
      · rw [hkey, List.lookup_cons_self]
        simp
      · have hne : (key == group.1) = false := by simpa using hkey
        rw [List.lookup_cons, hne]
        simp [ih, hkey]

/-- A trimmed token without an equals sign is the name of a preset, or else of a group. -/
theorem lookUp_word {core : String} (hword : core ≠ "") (hplain : '=' ∉ core.toList) :
    c.lookUp core = match c.preset? core with
      | some v => .ok [v]
      | none => match c.group? core with
        | some members => .ok (members.filterMap c.preset?)
        | none => .error .unknown := by
  have hempty : ¬ core.isEmpty = true := by simpa using hword
  have hequals : ¬ core.toList.contains '=' = true := by simpa using hplain
  exact (if_neg hempty).trans (if_neg hequals)

theorem lookUp_word_ok_iff {core : String} (hword : core ≠ "") (hplain : '=' ∉ core.toList) :
    (∃ vs, c.lookUp core = .ok vs) ↔ core ∈ c.names ∨ core ∈ c.groups.map Prod.fst := by
  rw [lookUp_word hword hplain, ← exists_preset?_iff, ← exists_group?_iff]
  cases c.preset? core with
  | some v => simp
  | none => cases c.group? core <;> simp

theorem lookUp_spelled_iff {core : String} (hequals : '=' ∈ core.toList) (vs : List Viewport) :
    c.lookUp core = .ok vs ↔ ∃ v, v.SpelledBy core ∧ vs = [v] := by
  have hword : core ≠ "" := by
    rintro rfl
    cases hequals
  have hlook : c.lookUp core = (do return [← Viewport.ofToken core]) := by
    simp [lookUp, hword, hequals]
  rw [hlook]
  constructor
  · intro h
    rcases exists_of_map_ok h with ⟨v, hv, rfl⟩
    exact ⟨v, Viewport.ofToken_ok_iff.1 hv, rfl⟩
  · rintro ⟨v, hv, rfl⟩
    rw [Viewport.ofToken_ok_iff.2 hv]
    rfl

theorem viewports_eq (text : String) :
    c.viewports text = (c.lookUp (Text.trim text)).mapError (⟨Text.trim text, ·⟩) := rfl

theorem viewports_ok_iff {text : String} {vs : List Viewport} :
    c.viewports text = .ok vs ↔ c.lookUp (Text.trim text) = .ok vs := by
  rw [viewports_eq]
  cases c.lookUp (Text.trim text) <;> simp [Except.mapError]

theorem token_of_viewports_error {text : String} {e : TokenError}
    (h : c.viewports text = .error e) : e.token = Text.trim text := by
  rw [viewports_eq] at h
  cases hlook : c.lookUp (Text.trim text) <;> rw [hlook] at h <;> cases h
  rfl

/-- If all members of a group are presets, the presets have the names of the members. -/
theorem names_of_members {members : List String} (h : ∀ m ∈ members, m ∈ c.names) :
    (members.filterMap c.preset?).map Viewport.name = members := by
  refine List.forall₂_eq_eq_eq ▸ List.forall₂_map_left_iff.2 ?_
  refine (forall₂_filterMap_preset? h).flip.imp ?_
  intro v m hv
  simpa using List.find?_some hv

/-- The token of a viewport stands for it in every catalog. -/
theorem viewports_token {v : Viewport} (hname : Viewport.IsName v.name)
    (hwidth : 1 ≤ v.width ∧ v.width ≤ 4294967295)
    (hheight : 1 ≤ v.height ∧ v.height ≤ 4294967295) : c.viewports v.token = .ok [v] := by
  have hspelled := Viewport.spelledBy_token hname hwidth hheight
  rw [viewports_ok_iff, hspelled.trim_eq]
  exact (lookUp_spelled_iff hspelled.mem_equals [v]).2 ⟨v, hspelled, rfl⟩

/-- What tokens stand for in any catalog.  Blanks around a token do not count. -/
theorem token_grammar (c : Catalog) (text : String) :
    let core := Text.trim text
    Text.Trimmed text core ∧
      -- Blanks alone stand for nothing.
      (core = "" → c.viewports text = .error ⟨core, .empty⟩) ∧
      -- With an equals sign a token stands for the viewport that it spells, if it spells one.
      ('=' ∈ core.toList → ∀ vs, c.viewports text = .ok vs ↔ ∃ v, v.SpelledBy core ∧ vs = [v]) ∧
      -- Any other token stands for a preset or, failing that, for the members of a group.
      (core ≠ "" → '=' ∉ core.toList →
        ((∃ vs, c.viewports text = .ok vs) ↔ core ∈ c.names ∨ core ∈ c.groups.map Prod.fst) ∧
        (∀ v, c.preset? core = some v → v ∈ c.presets ∧ v.name = core ∧
          c.viewports text = .ok [v]) ∧
        ∀ members, core ∉ c.names → c.group? core = some members →
          c.viewports text = .ok (members.filterMap c.preset?) ∧
          -- In a catalog that a run can have, none of them is left out.
          ∀ c₀ changes, c₀ = empty ∨ c₀ = standard → c₀.changed changes = .ok c →
            (members.filterMap c.preset?).map Viewport.name = members) ∧
      -- What is refused is the token itself.
      (∀ e, c.viewports text = .error e → e.token = core) ∧
      -- The token of a viewport stands for it.
      ∀ v : Viewport, Viewport.IsName v.name → 1 ≤ v.width → v.width ≤ 4294967295 → 1 ≤ v.height →
        v.height ≤ 4294967295 → c.viewports v.token = .ok [v] := by
  intro core
  refine ⟨Text.trim_eq_iff.1 rfl, ?_, ?_, ?_, ?_, ?_⟩
  · intro hempty
    have hlook : c.lookUp core = .error .empty := by simp [hempty, lookUp]
    rw [viewports_eq, show Text.trim text = core from rfl, hlook]
    rfl
  · intro hequals vs
    rw [viewports_ok_iff]
    exact lookUp_spelled_iff hequals vs
  · intro hword hplain
    have hlook := lookUp_word (c := c) hword hplain
    simp only [viewports_ok_iff]
    refine ⟨lookUp_word_ok_iff hword hplain, ?_, ?_⟩
    · intro v hv
      refine ⟨List.mem_of_find?_eq_some hv, by simpa using List.find?_some hv, ?_⟩
      rw [hlook, hv]
    · intro members hnone hgroup
      have hpreset : c.preset? core = none := by
        simpa using (isNone_preset?_iff core).2 hnone
      refine ⟨by rw [hlook, hpreset, hgroup], ?_⟩
      intro c₀ changes hbase hchanged
      have hsound : c.Sound := by
        rcases hbase with rfl | rfl
        · exact sound_empty.changed hchanged
        · exact sound_standard.changed hchanged
      exact names_of_members (hsound.members _ (mem_groups_of_group? hgroup))
  · exact fun e he => token_of_viewports_error he
  · intro v hname hwidth hwidth' hheight hheight'
    exact viewports_token hname ⟨hwidth, hwidth'⟩ ⟨hheight, hheight'⟩

example : Catalog.standard.viewports " kiosk=01080x1920\n" = .ok [⟨"kiosk", 1080, 1920⟩] := by
  decide

-- A digit of another script belongs to the form of a token and has no value all the same.
example : Catalog.standard.viewports "kiosk=108٠x1920" =
    .error ⟨"kiosk=108٠x1920", .outOfRange "108٠"⟩ := by
  decide

end Catalog
end LayoutAudit
