import LayoutAudit.Proofs.Session.Routing
import LayoutAudit.Proofs.Wire.Record

/-!
# Proofs.Session.Shape — lines of the shape of a reply

A line is read as a whole before the number in it is looked at.  So a JSON object that carries the
number of a waiting request is no reply if any of its fields has another shape than that field of a
reply: the line is passed over, and the request goes on waiting.

* `Reply.Fits`, `Reply.WellShaped` — the shape of a reply, field by field;
* `Reply.read_ok_iff_wellShaped` — which objects are read as replies;
* `Requests.completes_iff_wellShaped` — which of them complete a request.
-/

namespace LayoutAudit
namespace Session

open Json (Document Layout Readable Value depthLimit)
open Wire (Node Reading Record)
open Wire.Record (Outline)

namespace Reply

/-! ## Shapes -/

/-- Can a member of that name stand in a reply?  What is no field can be anything. -/
def Fits : String → Node → Prop
  | "id", v => ∃ n, Node.asNatural UInt64.size v = .ok n
  | "ok", v => ∃ b, Node.asBool v = .ok b
  | "error", v => ∃ text?, Node.asOption Node.asText v = .ok text?
  | "page", v => ∃ n?, Node.asOption (Node.asNatural UInt64.size) v = .ok n?
  | "measurement", v => ∃ m?, Node.asOption Measurement.decode v = .ok m?
  | _, v => Node.skip v = .ok ()

/-- All members of an object fit, and no field of a reply is given twice. -/
structure WellShaped (members : List (String × Node)) : Prop where
  fits : ∀ m ∈ members, Fits m.1 m.2
  once : Record.Once Reply.fields.names members

/-- What the fields of a reply ask for. -/
def outline : Reply.fields.Outline :=
  Outline.map _ <|
    (Outline.field "id" _ none).and
      ((Outline.field "ok" _ (some false)).and
        ((Outline.field "error" _ (some none)).and
          ((Outline.field "page" _ (some none)).and (Outline.field "measurement" _ (some none))
            (by decide))
          (by decide))
        (by decide))
      (by decide)

theorem fields_names : Reply.fields.names = ["id", "ok", "error", "page", "measurement"] := rfl

theorem outline_passes_iff (m : String × Node) : outline.Passes m ↔ Fits m.1 m.2 := by
  rcases m with ⟨name, v⟩
  have hfits : outline.fits name v ↔
      (name = "id" → ∃ n, Node.asNatural UInt64.size v = .ok n) ∧
      (name = "ok" → ∃ b, Node.asBool v = .ok b) ∧
      (name = "error" → ∃ text?, Node.asOption Node.asText v = .ok text?) ∧
      (name = "page" → ∃ n?, Node.asOption (Node.asNatural UInt64.size) v = .ok n?) ∧
      (name = "measurement" → ∃ m?, Node.asOption Measurement.decode v = .ok m?) := Iff.rfl
  simp only [Outline.Passes, hfits, fields_names]
  unfold Fits
  split
  case h_6 hid hok herror hpage hmeasurement =>
    have hforeign : name ∉ ["id", "ok", "error", "page", "measurement"] := by
      simpa using And.intro hid ⟨hok, herror, hpage, hmeasurement⟩
    constructor
    · intro hpass
      exact hpass.2 hforeign
    · intro hskip
      exact ⟨fun hname => absurd hname hforeign, fun _ => hskip⟩
  all_goals simp

/-! ## Objects that are read as replies -/

/-- A line that is a JSON object with these members. -/
def IsObject (text : String) (members : List (String × Node)) : Prop :=
  Json.Document.read text = ⟨.object (Node.texts members) none, none⟩

variable {text : String} {members : List (String × Node)}

theorem read_ok_iff_fromMembers (hobject : IsObject text members) {reply : Reply} :
    Reply.read text = .ok reply ↔
      Reply.fields.fromMembers (Node.texts members) none = .ok reply := by
  unfold IsObject at hobject
  simp only [Reply.read, hobject, Json.Document.decode, Reply.decode, Record.decode, Node.asMembers]
  cases hread : Reply.fields.fromMembers (Node.texts members) none <;>
    simp [hread, Node.finish, Bind.bind, Except.bind, Pure.pure, Except.pure]

/-- An object that has a number is read as a reply exactly if it is well shaped. -/
theorem read_ok_iff_wellShaped (hobject : IsObject text members)
    (hnumber : ∃ m ∈ members, m.1 = "id") :
    (∃ reply, Reply.read text = .ok reply) ↔ WellShaped members := by
  have hread : (∃ reply, Reply.read text = .ok reply) ↔
      ∃ reply, Reply.fields.fromMembers (Node.texts members) none = .ok reply :=
    exists_congr fun _ => read_ok_iff_fromMembers hobject
  rw [hread, outline.fromMembers_ok_iff]
  constructor
  · rintro ⟨hpass, honce, -⟩
    exact ⟨fun m hm => (outline_passes_iff m).1 (hpass m hm), honce⟩
  · rintro ⟨hfits, honce⟩
    refine ⟨fun m hm => (outline_passes_iff m).2 (hfits m hm), honce, ?_⟩
    -- The number is the only field without a default.
    intro name hname
    obtain rfl : name = "id" := List.mem_singleton.1 hname
    exact hnumber

/-- The number of a reply is the one that the object gives. -/
theorem id_of_read (hobject : IsObject text members) {reply : Reply}
    (hread : Reply.read text = .ok reply) {id : Nat}
    (hid : ("id", .number (.integer id)) ∈ members) : reply.id = id := by
  rcases Record.first_of_fromMembers ((read_ok_iff_fromMembers hobject).1 hread) hid with
    ⟨n, rest, hn, rfl⟩
  -- A number that is no word of 64 bits would not have been read.
  by_cases hsmall : (0 : Int) ≤ id ∧ (id : Int) < UInt64.size
  · rw [Node.asNatural, if_pos hsmall] at hn
    exact (Except.ok.inj hn).symm
  · rw [Node.asNatural, if_neg hsmall] at hn
    cases hn

end Reply
namespace Requests

/-- A reply to a request whose line is written is what the request ends with. -/
theorem result_of_reply {s : Requests} {text : String} {reply : Reply}
    (hread : Reply.read text = .ok reply)
    (hstage : s.stages[reply.id]? = some (.waiting .expected))
    (hwaits : s.isWaiting reply.id = true) :
    ((s.readLine text).collect reply.id).result? reply.id = some reply.outcome := by
  -- The line delivers the reply, and the request takes it in a step of its own.
  have hdelivered : (s.readLine text).stages[reply.id]? = some (.waiting (.delivered reply)) := by
    simp [readLine, hread, deliver, hwaits, hstage, Stage.receive]
  have hfinished : ((s.readLine text).put reply.id (.finished reply.outcome)).stages[reply.id]? =
      some (.finished reply.outcome) := getElem?_put_self hdelivered
  simp [collect, hdelivered, result?, hfinished]

/-- A line that is a JSON object and carries the number of a waiting request completes that request
exactly if it is well shaped: then the request leaves the table, and ends with the outcome of a
reply.  Otherwise nothing happens, and the request goes on waiting. -/
theorem completes_iff_wellShaped (events : List Event) (id : Nat) (text : String)
    (members : List (String × Node)) (hobject : Reply.IsObject text members)
    (hid : ("id", .number (.integer id)) ∈ members)
    (hwaits : (start.run events).isWaiting id = true) :
    let s := start.run events
    let t := s.step (.line text)
    (t.isWaiting id = false ↔ Reply.WellShaped members) ∧
      (Reply.WellShaped members → ∃ reply : Reply, reply.id = id ∧
        t.mail? id = some (.delivered reply) ∧
        (s.stages[id]? = some (.waiting .expected) →
          (t.step (.collect id)).result? id = some reply.outcome)) ∧
      (¬ Reply.WellShaped members → t = s) := by
  intro s t
  have hread := Reply.read_ok_iff_wellShaped hobject ⟨_, hid, rfl⟩
  have hshaped : Reply.WellShaped members → ∃ reply : Reply, reply.id = id ∧
      Reply.read text = .ok reply := by
    intro hshape
    rcases hread.2 hshape with ⟨reply, hreply⟩
    exact ⟨reply, Reply.id_of_read hobject hreply hid, hreply⟩
  have hunshaped : ¬ Reply.WellShaped members → t = s := by
    -- The number in the line plays no part any more once the line cannot be read.
    intro hshape
    cases hline : Reply.read text with
    | ok reply => exact absurd (hread.1 ⟨reply, hline⟩) hshape
    | error fault => simp [t, step, readLine, hline]
  refine ⟨⟨?_, ?_⟩, ?_, hunshaped⟩
  · intro hleft
    by_contra hshape
    rw [hunshaped hshape, hwaits] at hleft
    cases hleft
  · intro hshape
    rcases hshaped hshape with ⟨reply, rfl, hreply⟩
    exact ((tracked_run events).delivered_of_reply hreply hwaits).1
  · intro hshape
    rcases hshaped hshape with ⟨reply, rfl, hreply⟩
    have hmail := ((tracked_run events).delivered_of_reply hreply hwaits).2
    exact ⟨reply, rfl, hmail, fun hstage => result_of_reply hreply hstage hwaits⟩

/-- A reply whose page is a text completes nothing, and one whose page is a number does. -/
theorem completes_with_numbered_page :
    let s := start.run [.draw, .register 0, .written 0 none]
    let line (page : String) := "\x7b\"id\":0,\"ok\":true,\"page\":" ++ page ++ "\x7d"
    let object (page : Node) : List (String × Node) :=
      [("id", .number (.integer 0)), ("ok", .bool true), ("page", page)]
    (¬ Reply.WellShaped (object (.string "x")) ∧ s.step (.line (line "\"x\"")) = s ∧
      s.isWaiting 0 = true) ∧
    (Reply.WellShaped (object (.number (.integer 7))) ∧ ∃ reply : Reply, reply.id = 0 ∧
      (s.step (.line (line "7"))).mail? 0 = some (.delivered reply)) := by
  intro s line object
  have hwaits : s.isWaiting 0 = true := rfl
  have htext : Reply.IsObject (line "\"x\"") (object (.string "x")) := by
    let value : Value := .object [("id", .nat 0), ("ok", .bool true), ("page", .string "x")]
    have hline : ("\x7b\"id\":0,\"ok\":true,\"page\":" ++ "\"x\"" ++ "\x7d").toList =
        Layout.oneLine.text 0 value := rfl
    have hreadable : Readable depthLimit value :=
      .object (by simp [Readable.nat, Readable.bool, Readable.string])
    exact Document.read_line hline hreadable
  have hnumber : Reply.IsObject (line "7") (object (.number (.integer 7))) := by
    let value : Value := .object [("id", .nat 0), ("ok", .bool true), ("page", .nat 7)]
    have hline : ("\x7b\"id\":0,\"ok\":true,\"page\":" ++ "7" ++ "\x7d").toList =
        Layout.oneLine.text 0 value := rfl
    have hreadable : Readable depthLimit value :=
      .object (by simp [Readable.nat _ (show 0 < UInt64.size by decide), Readable.bool,
        Readable.nat _ (show 7 < UInt64.size by decide)])
    exact Document.read_line hline hreadable
  have hunshaped : ¬ Reply.WellShaped (object (.string "x")) := by
    intro hshape
    have hpage : Reply.Fits "page" (.string "x") :=
      hshape.fits ("page", .string "x") (by simp [object])
    rcases hpage with ⟨n?, hn⟩
    cases hn
  have hshaped : Reply.WellShaped (object (.number (.integer 7))) := by
    constructor
    · simp only [object, List.forall_mem_cons]
      exact ⟨⟨0, rfl⟩, ⟨true, rfl⟩, ⟨some 7, rfl⟩, by simp⟩
    · simp [Record.Once, Reply.fields_names, object]
  have hpassed := completes_iff_wellShaped [.draw, .register 0, .written 0 none] 0 _ _ htext
    List.mem_cons_self hwaits
  have hread := completes_iff_wellShaped [.draw, .register 0, .written 0 none] 0 _ _ hnumber
    List.mem_cons_self hwaits
  rcases hread.2.1 hshaped with ⟨reply, hown, hmail, -⟩
  exact ⟨⟨hunshaped, hpassed.2.2 hunshaped, hwaits⟩, hshaped, reply, hown, hmail⟩

/-- A page with a coordinate that is no number leaves its request waiting. -/
theorem not_every_object_completes :
    ¬ ∀ (events : List Event) (id : Nat) (text : String) (members : List (String × Node)),
      Reply.IsObject text members → ("id", .number (.integer id)) ∈ members →
      (start.run events).isWaiting id = true →
      ((start.run events).step (.line text)).isWaiting id = false := by
  intro hall
  let line := "\x7b\"id\":0,\"measurement\":" ++
    "\x7b\"view\":\x7b\"box\":\x7b\"left\":null\x7d\x7d\x7d\x7d"
  let box : Node := .object (Node.texts [("left", .null)]) none
  let view : Node := .object (Node.texts [("box", box)]) none
  let measurement : Node := .object (Node.texts [("view", view)]) none
  let members : List (String × Node) :=
    [("id", .number (.integer 0)), ("measurement", measurement)]
  have hobject : Reply.IsObject line members := by
    let value : Value := .object [("id", .nat 0), ("measurement",
      .object [("view", .object [("box", .object [("left", .null)])])])]
    have hline : ("\x7b\"id\":0,\"measurement\":" ++
        "\x7b\"view\":\x7b\"box\":\x7b\"left\":null\x7d\x7d\x7d\x7d").toList =
          Layout.oneLine.text 0 value := rfl
    have hmeasurement := (((Readable.null 123).member "left").member "box").member "view"
    have hreadable : Readable depthLimit value := .object (by simp [Readable.nat, hmeasurement])
    exact Document.read_line hline hreadable
  have hleft := hall [.draw, .register 0, .written 0 none] 0 line members hobject
    List.mem_cons_self rfl
  have hunread (reply : Reply) : Reply.read line ≠ .ok reply := by
    intro hread
    cases (Reply.read_ok_iff_fromMembers hobject).1 hread
  have hsame : ((start.run [.draw, .register 0, .written 0 none]).step (.line line)).isWaiting 0 =
      true := by
    cases hread : Reply.read line with
    | ok reply => exact absurd hread (hunread reply)
    | error fault =>
        simp only [step, readLine, hread]
        rfl
  rw [hsame] at hleft
  cases hleft

end Requests
end Session
end LayoutAudit
