import LayoutAudit.Proofs.Json.Tokens

/-!
# Proofs.Json.Layout — a value is read from either of its texts

A value has a text on one line and a text that is spread over lines.  They are two layouts of the
same tokens, and differ in the blanks between them alone.

* `Json.Layout`, `Layout.text` — a text with its blanks left open;
* `Layout.text_oneLine`, `Layout.text_indented` — the texts that are printed;
* `Json.Readable` — nesting and numbers that can be read;
* `Layout.readValue_text` — whatever its layout, a text is read as the value that it is of;
* `Json.Document.read_line`, `Json.Document.read_printed` — so is a document, also with a line break
  behind it.
-/

namespace LayoutAudit
namespace Json

open Wire (Node)

structure Layout where
  /-- In front of an item or member at a nesting depth, and behind the last one. -/
  line : Nat → List Char
  /-- Behind a colon. -/
  colon : List Char
  line_blank : ∀ depth, ∀ c ∈ line depth, isBlank c = true
  colon_blank : ∀ c ∈ colon, isBlank c = true

namespace Layout

/-- No blanks at all. -/
def oneLine : Layout where
  line _ := []
  colon := []
  line_blank := by simp
  colon_blank := by simp

def indented : Layout where
  line depth := '\n' :: List.replicate (2 * depth) ' '
  colon := [' ']
  line_blank depth c hc := by
    rcases List.mem_cons.1 hc with rfl | hc
    · rfl
    · rw [List.eq_of_mem_replicate hc]
      rfl
  colon_blank c hc := by
    rw [List.mem_singleton.1 hc]
    rfl

/-- The blanks behind the last item or member of a container, if it holds any. -/
def closing {α : Type} (l : Layout) (depth : Nat) (parts : List α) : List Char :=
  if parts.isEmpty then [] else l.line depth

/-- The comma in front of an item or member, unless it is the first one. -/
def comma (first : Bool) : List Char := if first then [] else [',']

mutual
def text (l : Layout) (depth : Nat) : Value → List Char
  | .null => ['n', 'u', 'l', 'l']
  | .bool b => if b then ['t', 'r', 'u', 'e'] else ['f', 'a', 'l', 's', 'e']
  | .number n => n.write.toList
  | .string s => '"' :: (s.toList.flatMap escapeChar ++ ['"'])
  | .array items =>
      '[' :: (l.items (depth + 1) true items ++ (l.closing depth items ++ [']']))
  | .object members =>
      '{' :: (l.members (depth + 1) true members ++ (l.closing depth members ++ ['}']))

def items (l : Layout) (depth : Nat) (first : Bool) : List Value → List Char
  | [] => []
  | v :: rest => comma first ++ (l.line depth ++ (l.text depth v ++ l.items depth false rest))

def members (l : Layout) (depth : Nat) (first : Bool) : List (String × Value) → List Char
  | [] => []
  | (k, v) :: rest =>
      comma first ++ (l.line depth ++ ('"' :: (k.toList.flatMap escapeChar ++ ('"' :: ':' ::
        (l.colon ++ (l.text depth v ++ l.members depth false rest))))))
end

/-! ## Texts that are printed -/

theorem items_false (l : Layout) (depth : Nat) (vs : List Value) :
    l.items depth false vs = if vs.isEmpty then [] else ',' :: l.items depth true vs := by
  cases vs with
  | nil => rfl
  | cons v rest => rfl

theorem members_false (l : Layout) (depth : Nat) (ms : List (String × Value)) :
    l.members depth false ms = if ms.isEmpty then [] else ',' :: l.members depth true ms := by
  cases ms with
  | nil => rfl
  | cons m rest => rfl

theorem toList_intercalate_cons (first : String) (rest : List String) :
    (",".intercalate (first :: rest)).toList =
      first.toList ++ if rest.isEmpty then [] else ',' :: (",".intercalate rest).toList := by
  cases rest with
  | nil => simp
  | cons next rest => simp [String.intercalate_cons_cons]

mutual
theorem text_oneLine (depth : Nat) : (v : Value) → oneLine.text depth v = v.compact.toList
  | .null => rfl
  | .bool b => by cases b <;> rfl
  | .number n => by rw [text, Value.compact]
  | .string s => by simp [text, Value.compact, quote]
  | .array vs => by
      have hclosing : oneLine.closing depth vs = [] := ite_self _
      rw [text, Value.compact, items_oneLine, hclosing]
      simp
  | .object ms => by
      have hclosing : oneLine.closing depth ms = [] := ite_self _
      rw [text, Value.compact, members_oneLine, hclosing]
      simp

theorem items_oneLine (depth : Nat) : (vs : List Value) →
    oneLine.items depth true vs = (",".intercalate (Value.compactItems vs)).toList
  | [] => rfl
  | v :: rest => by
      rw [items, items_false, Value.compactItems, toList_intercalate_cons, text_oneLine,
        items_oneLine]
      cases rest <;> simp [comma, oneLine, Value.compactItems]

theorem members_oneLine (depth : Nat) : (ms : List (String × Value)) →
    oneLine.members depth true ms = (",".intercalate (Value.compactMembers ms)).toList
  | [] => rfl
  | (k, v) :: rest => by
      rw [members, members_false, Value.compactMembers, toList_intercalate_cons, text_oneLine,
        members_oneLine]
      cases rest <;> simp [comma, oneLine, Value.compactMembers, quote]
end

mutual
theorem text_indented (depth : Nat) : (v : Value) →
    indented.text depth v = (v.prettyAt depth).toList
  | .null => by simp [text, Value.prettyAt, Value.compact]
  | .bool b => by cases b <;> simp [text, Value.prettyAt, Value.compact]
  | .number n => by simp [text, Value.prettyAt, Value.compact]
  | .string s => by simp [text, Value.prettyAt, Value.compact, quote]
  | .array [] => by
      simp [text, items, closing, Value.prettyAt, Value.compact, Value.compactItems]
  | .array (v :: rest) => by
      rw [text, Value.prettyAt, items_indented]
      simp [closing, indented, Value.lineBreak]
  | .object [] => by
      simp [text, members, closing, Value.prettyAt, Value.compact, Value.compactMembers]
  | .object (m :: rest) => by
      rw [text, Value.prettyAt, members_indented]
      simp [closing, indented, Value.lineBreak]

theorem items_indented (depth : Nat) : (vs : List Value) →
    indented.items depth true vs = (",".intercalate (Value.prettyItems depth vs)).toList
  | [] => rfl
  | v :: rest => by
      rw [items, items_false, Value.prettyItems, toList_intercalate_cons, text_indented,
        items_indented]
      cases rest <;> simp [comma, indented, Value.prettyItems, Value.lineBreak]

theorem members_indented (depth : Nat) : (ms : List (String × Value)) →
    indented.members depth true ms = (",".intercalate (Value.prettyMembers depth ms)).toList
  | [] => rfl
  | (k, v) :: rest => by
      rw [members, members_false, Value.prettyMembers, toList_intercalate_cons, text_indented,
        members_indented]
      cases rest <;> simp [comma, indented, Value.prettyMembers, Value.lineBreak, quote]
end

end Layout

/-! ## What can be read -/

/-- Containers are nested no deeper than this, and all numbers are read back. -/
inductive Readable : Nat → Value → Prop where
  | null (limit : Nat) : Readable limit .null
  | bool (limit : Nat) (b : Bool) : Readable limit (.bool b)
  | number (limit : Nat) {n : Number} : n.ReadsBack → Readable limit (.number n)
  | string (limit : Nat) (s : String) : Readable limit (.string s)
  | array {limit : Nat} {items : List Value} :
      (∀ v ∈ items, Readable limit v) → Readable (limit + 1) (.array items)
  | object {limit : Nat} {members : List (String × Value)} :
      (∀ m ∈ members, Readable limit m.2) → Readable (limit + 1) (.object members)

theorem Readable.nat (limit : Nat) {n : Nat} (hn : n < UInt64.size) : Readable limit (.nat n) :=
  .number limit (Number.readsBack_integer (by omega) (Int.ofNat_lt.2 hn))

theorem Readable.member {limit : Nat} {v : Value} (hv : Readable limit v) (name : String) :
    Readable (limit + 1) (.object [(name, v)]) :=
  .object (by simpa using hv)

theorem dropWhile_isBlank_append {blanks : List Char} (h : ∀ c ∈ blanks, isBlank c = true)
    (cs : List Char) : (blanks ++ cs).dropWhile isBlank = cs.dropWhile isBlank :=
  List.dropWhile_append_of_pos h

theorem readValue_blanks {blanks : List Char} (h : ∀ c ∈ blanks, isBlank c = true)
    (fuel limit : Nat) (cs : List Char) :
    readValue fuel limit (blanks ++ cs) = readValue fuel limit cs := by
  cases fuel with
  | zero => simp only [readValue]
  | succ fuel => simp only [readValue, dropWhile_isBlank_append h]

namespace Layout

variable (l : Layout)

/-- A value begins with a character that is no blank and ends no container. -/
theorem exists_head_text {limit : Nat} {v : Value} (hv : Readable limit v) (depth : Nat) :
    ∃ c cs, l.text depth v = c :: cs ∧ isBlank c = false ∧ c ≠ ']' := by
  cases hv with
  | null => exact ⟨'n', _, rfl, rfl, by decide⟩
  | bool _ b =>
      cases b with
      | true => exact ⟨'t', _, rfl, rfl, by decide⟩
      | false => exact ⟨'f', _, rfl, rfl, by decide⟩
  | number _ hn =>
      rcases hn.exists_head with ⟨c, cs, htext, rfl | hc⟩
      · exact ⟨'-', cs, by rw [text, htext], rfl, by decide⟩
      · exact ⟨c, cs, by rw [text, htext], isBlank_of_isDigit hc, ne_of_isDigit hc ']' rfl⟩
  | string _ s => exact ⟨'"', _, by rw [text], rfl, by decide⟩
  | array _ => exact ⟨'[', _, by rw [text], rfl, by decide⟩
  | object _ => exact ⟨'{', _, by rw [text], rfl, by decide⟩

theorem closing_blank {α : Type} (depth : Nat) (parts : List α) :
    ∀ c ∈ l.closing depth parts, isBlank c = true := by
  unfold closing
  split
  · simp
  · exact l.line_blank depth

theorem follows_of_isBlank {c : Char} (hc : isBlank c = true) (rest : List Char) :
    Follows (c :: rest) := by
  rintro _ ⟨⟩
  simp only [isBlank, Bool.or_eq_true, decide_eq_true_eq] at hc
  rcases hc with ((rfl | rfl) | rfl) | rfl <;> decide

/-- Behind the last item or member there are blanks and the end of the container. -/
theorem follows_end {blanks : List Char} (h : ∀ c ∈ blanks, isBlank c = true) {c : Char}
    (hc : c = ']' ∨ c = '}') (rest : List Char) : Follows (blanks ++ c :: rest) := by
  cases blanks with
  | nil =>
      rintro _ ⟨⟩
      rcases hc with rfl | rfl <;> decide
  | cons b blanks => exact follows_of_isBlank (h b List.mem_cons_self) _

theorem follows_items (depth : Nat) (vs : List Value) {rest : List Char} (hrest : Follows rest) :
    Follows (l.items depth false vs ++ rest) := by
  cases vs with
  | nil => exact hrest
  | cons v vs =>
      rintro _ ⟨⟩
      decide

theorem follows_members (depth : Nat) (ms : List (String × Value)) {rest : List Char}
    (hrest : Follows rest) : Follows (l.members depth false ms ++ rest) := by
  cases ms with
  | nil => exact hrest
  | cons m ms =>
      rintro _ ⟨⟩
      decide

theorem readItems_end {blanks : List Char} (h : ∀ c ∈ blanks, isBlank c = true) (first : Bool)
    (fuel limit : Nat) (rest : List Char) :
    readItems (fuel + 1) limit first (blanks ++ ']' :: rest) = ([], none, some rest) := by
  rw [readItems, dropWhile_isBlank_append h]
  rfl

/-- An item is read behind the comma and the blanks in front of it. -/
theorem readItems_item (first : Bool) {c : Char} (hc : isBlank c = false) (hend : c ≠ ']')
    (depth fuel limit : Nat) (rest : List Char) :
    readItems (fuel + 1) limit first (comma first ++ (l.line depth ++ c :: rest)) =
      readItem fuel limit (c :: rest) := by
  have hdrop : (l.line depth ++ c :: rest).dropWhile isBlank = c :: rest := by
    rw [dropWhile_isBlank_append (l.line_blank depth)]
    simp [hc]
  rw [readItems]
  cases first with
  | true => simp [comma, hdrop, hend]
  | false =>
      have hcomma : (comma false ++ (l.line depth ++ c :: rest)).dropWhile isBlank =
          ',' :: (l.line depth ++ c :: rest) := rfl
      rw [hcomma]
      simp only [hdrop, Bool.false_eq_true, if_false, if_true]
      simp [hend]

theorem readMembers_end {blanks : List Char} (h : ∀ c ∈ blanks, isBlank c = true) (first : Bool)
    (fuel limit : Nat) (rest : List Char) :
    readMembers (fuel + 1) limit first (blanks ++ '}' :: rest) = ([], none, some rest) := by
  rw [readMembers, dropWhile_isBlank_append h]
  rfl

theorem readMembers_member (first : Bool) (depth fuel limit : Nat) (rest : List Char) :
    readMembers (fuel + 1) limit first (comma first ++ (l.line depth ++ '"' :: rest)) =
      readMember fuel limit ('"' :: rest) := by
  have hdrop : (l.line depth ++ '"' :: rest).dropWhile isBlank = '"' :: rest := by
    rw [dropWhile_isBlank_append (l.line_blank depth)]
    rfl
  rw [readMembers]
  cases first with
  | true => simp [comma, hdrop]
  | false =>
      have hcomma : (comma false ++ (l.line depth ++ '"' :: rest)).dropWhile isBlank =
          ',' :: (l.line depth ++ '"' :: rest) := rfl
      rw [hcomma]
      simp [hdrop]

/-- A member is its name, a colon and its value. -/
theorem readMember_pair (k : String) {node : Node} {cs behind : List Char} {fuel limit : Nat}
    (h : readValue fuel limit cs = (node, some behind)) :
    readMember (fuel + 1) limit
        ('"' :: (k.toList.flatMap escapeChar ++ '"' :: ':' :: (l.colon ++ cs))) =
      ((.string k, node) :: (readMembers fuel limit false behind).1,
        (readMembers fuel limit false behind).2) := by
  rw [readMember, readText_escaped]
  have hcolon : (':' :: (l.colon ++ cs)).dropWhile isBlank = ':' :: (l.colon ++ cs) := rfl
  simp only [hcolon, readValue_blanks l.colon_blank, h]

theorem readItem_value {node : Node} {cs behind : List Char} {fuel limit : Nat}
    (h : readValue fuel limit cs = (node, some behind)) :
    readItem (fuel + 1) limit cs =
      (node :: (readItems fuel limit false behind).1, (readItems fuel limit false behind).2) := by
  rw [readItem, h]

theorem readValue_array {items : List Node} {cs : List Char} {behind : Option (List Char)}
    {fuel limit : Nat} (h : readItems fuel limit true cs = (items, none, behind)) :
    readValue (fuel + 1) (limit + 1) ('[' :: cs) = (.array items none, behind) := by
  have hfirst : ('[' :: cs).dropWhile isBlank = '[' :: cs := rfl
  simp [readValue, hfirst, h]

theorem readValue_object {members : List (Node × Node)} {cs : List Char}
    {behind : Option (List Char)} {fuel limit : Nat}
    (h : readMembers fuel limit true cs = (members, none, behind)) :
    readValue (fuel + 1) (limit + 1) ('{' :: cs) = (.object members none, behind) := by
  have hfirst : ('{' :: cs).dropWhile isBlank = '{' :: cs := rfl
  simp [readValue, hfirst, h]

theorem exists_fuel {c : Char} {cs : List Char} {fuel : Nat} (h : 3 * (c :: cs).length ≤ fuel) :
    ∃ more, fuel = more + 1 ∧ 3 * cs.length + 2 ≤ more := by
  rw [List.length_cons] at h
  exact ⟨fuel - 1, by omega, by omega⟩

mutual
/-- A text in front of something that cannot belong to it is read as the value that it is of.  The
fuel is spent at most three times for a character. -/
theorem readValue_text (depth : Nat) {fuel limit : Nat} {rest : List Char} (hrest : Follows rest) :
    (v : Value) → Readable limit v → 3 * (l.text depth v ++ rest).length ≤ fuel →
      readValue fuel limit (l.text depth v ++ rest) = (.ofValue v, some rest)
  | .null, _, hfuel => by
      rcases exists_fuel hfuel with ⟨more, rfl, -⟩
      rw [text, List.cons_append, readValue]
      rfl
  | .bool true, _, hfuel => by
      rcases exists_fuel hfuel with ⟨more, rfl, -⟩
      rw [text, if_pos rfl, List.cons_append, readValue]
      rfl
  | .bool false, _, hfuel => by
      rcases exists_fuel hfuel with ⟨more, rfl, -⟩
      rw [text, if_neg Bool.false_ne_true, List.cons_append, readValue]
      rfl
  | .number n, hv, hfuel => by
      cases hv with
      | number _ hn =>
          rw [text] at hfuel ⊢
          rcases hn.exists_head with ⟨c, cs, htext, -⟩
          have hlength := hfuel
          rw [htext] at hlength
          rcases exists_fuel hlength with ⟨more, rfl, -⟩
          exact readValue_number hn hrest more limit
  | .string s, _, hfuel => by
      rw [text] at hfuel ⊢
      rcases exists_fuel hfuel with ⟨more, rfl, -⟩
      rw [List.cons_append, readValue, List.append_assoc]
      exact readText_escaped s rest
  | .array vs, hv, hfuel => by
      cases hv with
      | @array limit _ hvs =>
          rw [text, List.cons_append] at hfuel ⊢
          rcases exists_fuel hfuel with ⟨more, rfl, hmore⟩
          rw [List.append_assoc, List.append_assoc] at hmore ⊢
          exact readValue_array
            (readItems_text (depth + 1) (l.closing_blank depth vs) vs true hvs hmore)
  | .object ms, hv, hfuel => by
      cases hv with
      | @object limit _ hms =>
          rw [text, List.cons_append] at hfuel ⊢
          rcases exists_fuel hfuel with ⟨more, rfl, hmore⟩
          rw [List.append_assoc, List.append_assoc] at hmore ⊢
          exact readValue_object
            (readMembers_text (depth + 1) (l.closing_blank depth ms) ms true hms hmore)

theorem readItems_text (depth : Nat) {fuel limit : Nat} {behind rest : List Char}
    (hbehind : ∀ c ∈ behind, isBlank c = true) :
    (vs : List Value) → (first : Bool) → (∀ v ∈ vs, Readable limit v) →
      3 * (l.items depth first vs ++ (behind ++ ']' :: rest)).length + 2 ≤ fuel →
      readItems fuel limit first (l.items depth first vs ++ (behind ++ ']' :: rest)) =
        (Node.ofValues vs, none, some rest)
  | [], first, _, hfuel => by
      obtain ⟨more, rfl⟩ : ∃ more, fuel = more + 1 := ⟨fuel - 1, by omega⟩
      exact readItems_end hbehind first more limit rest
  | v :: vs, first, hvs, hfuel => by
      rcases List.forall_mem_cons.1 hvs with ⟨hv, hvs⟩
      have hnext : Follows (l.items depth false vs ++ (behind ++ ']' :: rest)) :=
        l.follows_items depth vs (follows_end hbehind (.inl rfl) rest)
      rcases l.exists_head_text hv depth with ⟨c, cs, htext, hc, hend⟩
      rw [items] at hfuel ⊢
      simp only [List.append_assoc] at hfuel ⊢
      obtain ⟨more, rfl⟩ : ∃ more, fuel = more + 2 := ⟨fuel - 2, by omega⟩
      have hvalue : readValue more limit
          (l.text depth v ++ (l.items depth false vs ++ (behind ++ ']' :: rest))) =
            (.ofValue v, some (l.items depth false vs ++ (behind ++ ']' :: rest))) := by
        refine readValue_text depth hnext v hv ?_
        simp only [List.length_append] at hfuel ⊢
        omega
      have hothers : readItems more limit false
          (l.items depth false vs ++ (behind ++ ']' :: rest)) = (Node.ofValues vs, none, some rest) := by
        refine readItems_text depth hbehind vs false hvs ?_
        have hpositive : 1 ≤ (l.text depth v).length := by simp [htext]
        simp only [List.length_append] at hfuel ⊢
        omega
      have hitem := readItem_value hvalue
      rw [hothers] at hitem
      rw [htext, List.cons_append] at hitem ⊢
      rw [l.readItems_item first hc hend, hitem]
      rfl

theorem readMembers_text (depth : Nat) {fuel limit : Nat} {behind rest : List Char}
    (hbehind : ∀ c ∈ behind, isBlank c = true) :
    (ms : List (String × Value)) → (first : Bool) → (∀ m ∈ ms, Readable limit m.2) →
      3 * (l.members depth first ms ++ (behind ++ '}' :: rest)).length + 2 ≤ fuel →
      readMembers fuel limit first (l.members depth first ms ++ (behind ++ '}' :: rest)) =
        (Node.ofMembers ms, none, some rest)
  | [], first, _, hfuel => by
      obtain ⟨more, rfl⟩ : ∃ more, fuel = more + 1 := ⟨fuel - 1, by omega⟩
      exact readMembers_end hbehind first more limit rest
  | (k, v) :: ms, first, hms, hfuel => by
      rcases List.forall_mem_cons.1 hms with ⟨hv, hms⟩
      have hnext : Follows (l.members depth false ms ++ (behind ++ '}' :: rest)) :=
        l.follows_members depth ms (follows_end hbehind (.inr rfl) rest)
      rw [members] at hfuel ⊢
      simp only [List.append_assoc, List.cons_append] at hfuel ⊢
      obtain ⟨more, rfl⟩ : ∃ more, fuel = more + 2 := ⟨fuel - 2, by omega⟩
      have hvalue : readValue more limit
          (l.text depth v ++ (l.members depth false ms ++ (behind ++ '}' :: rest))) =
            (.ofValue v, some (l.members depth false ms ++ (behind ++ '}' :: rest))) := by
        refine readValue_text depth hnext v hv ?_
        simp only [List.length_append, List.length_cons] at hfuel ⊢
        omega
      have hothers : readMembers more limit false
          (l.members depth false ms ++ (behind ++ '}' :: rest)) =
            (Node.ofMembers ms, none, some rest) := by
        refine readMembers_text depth hbehind ms false hms ?_
        simp only [List.length_append, List.length_cons] at hfuel ⊢
        omega
      have hmember := l.readMember_pair k hvalue
      rw [hothers] at hmember
      rw [l.readMembers_member, hmember]
      rfl
end

/-- Blanks may come behind the text of a document. -/
theorem read_document {text : String} {v : Value} {blanks : List Char}
    (htext : text.toList = l.text 0 v ++ blanks) (hblanks : ∀ c ∈ blanks, isBlank c = true)
    (hv : Readable depthLimit v) : Document.read text = ⟨.ofValue v, none⟩ := by
  have hfollows : Follows blanks := by
    cases blanks with
    | nil => rintro _ ⟨⟩
    | cons c rest => exact follows_of_isBlank (hblanks c List.mem_cons_self) rest
  have hread : readValue (3 * (l.text 0 v ++ blanks).length + 3) depthLimit
      (l.text 0 v ++ blanks) = (.ofValue v, some blanks) :=
    l.readValue_text 0 hfollows v hv (Nat.le_add_right _ 3)
  have hend : blanks.dropWhile isBlank = [] := by
    have hall := dropWhile_isBlank_append hblanks []
    rwa [List.append_nil] at hall
  simp only [Document.read, htext, hread, hend]
  rfl

end Layout

/-- Of the text on one line the value is read. -/
theorem Document.read_line {line : String} {v : Value}
    (hline : line.toList = Layout.oneLine.text 0 v) (hv : Readable depthLimit v) :
    Document.read line = ⟨.ofValue v, none⟩ :=
  Layout.oneLine.read_document (hline.trans (List.append_nil _).symm)
    (fun _ hc => absurd hc List.not_mem_nil) hv

/-- Of either text, with a line break behind it, the value is read. -/
theorem Document.read_printed {v : Value} (hv : Readable depthLimit v) (pretty : Bool) :
    Document.read ((if pretty then v.pretty else v.compact) ++ "\n") = ⟨.ofValue v, none⟩ := by
  have hbreak : ∀ c ∈ ['\n'], isBlank c = true := by
    intro c hc
    rw [List.mem_singleton.1 hc]
    rfl
  cases pretty with
  | true =>
      refine Layout.indented.read_document ?_ hbreak hv
      rw [if_pos rfl, String.toList_append, Layout.text_indented]
      rfl
  | false =>
      refine Layout.oneLine.read_document ?_ hbreak hv
      rw [if_neg Bool.false_ne_true, String.toList_append, Layout.text_oneLine]
      rfl

end Json
end LayoutAudit
