import LayoutAudit.Proofs.Spec.Calls

/-!
# Proofs.Spec.Handles — the references that a session hands out

Each call that asks for a reference gets one.  The session files what it hands out: elements and
groups that are to be measured, in the order of the calls, and apart from them the groups that hold
a frame.  The frames themselves are not filed, since every spec has them already.

* `Spec.Handle` — a reference as it is handed out, with the selector that was asked for;
* `Builder.handOut` — calls in order, and the references that they get;
* `Spec.File`, `Session.Filed` — the session holds what was handed out, each at its place;
* `Session.filed_handedOut` — that is so after any calls;
* `Spec.references_of_calls` — what the references of a session are, and what they stand for.
-/

namespace LayoutAudit
namespace Spec

/-- A reference that was handed out, with the selector that was asked for. -/
inductive Handle where
  | element (selector : Selector) (ref : ElementRef)
  | group (selector : Selector) (ref : GroupRef)

/-- Where a spec has a reference. -/
inductive File where
  | elements
  | groups
  | frameGroups
  /-- The references to the frames themselves. -/
  | frames
  deriving DecidableEq

def File.declarations (s : Spec) : File → List Declaration
  | elements => s.elements
  | groups => s.groups
  | frameGroups => s.frameGroups
  | frames => [⟨viewKey, .view⟩, ⟨canvasKey, .canvas⟩]

namespace Handle

def call : Handle → Call
  | element selector _ => .element selector
  | group selector _ => .group selector

def declaration : Handle → Declaration
  | element selector ref => ⟨ref.key, selector⟩
  | group selector ref => ⟨ref.key, selector⟩

def file : Handle → File
  | element selector _ => if selector.isFrame then .frames else .elements
  | group selector _ => if selector.isFrame then .frameGroups else .groups

def within (file : File) (handles : List Handle) : List Declaration :=
  (handles.filter (·.file = file)).map declaration

/-- The declarations of those that have taken a key, which is all but the frames themselves. -/
def taken (handles : List Handle) : List Declaration :=
  (handles.filter (·.file ≠ .frames)).map declaration

theorem within_append (file : File) (handles later : List Handle) :
    within file (handles ++ later) = within file handles ++ within file later := by
  simp [within]

theorem within_cons (file : File) (h : Handle) (rest : List Handle) :
    within file (h :: rest) =
      if h.file = file then h.declaration :: within file rest else within file rest := by
  by_cases hfile : h.file = file <;> simp [within, hfile]

theorem taken_cons (h : Handle) (rest : List Handle) :
    taken (h :: rest) =
      if h.file = .frames then taken rest else h.declaration :: taken rest := by
  by_cases hfile : h.file = .frames <;> simp [taken, hfile]

/-- What has taken a key is in one of the other three files. -/
theorem taken_perm (handles : List Handle) :
    (taken handles).Perm
      (within .elements handles ++ within .groups handles ++ within .frameGroups handles) := by
  induction handles with
  | nil => exact List.Perm.refl []
  | cons h rest ih =>
      have hmore := List.Perm.cons h.declaration ih
      cases hfile : h.file with
      | elements => simpa [within_cons, taken_cons, hfile] using hmore
      | groups =>
          have hplace : (h.declaration :: taken rest).Perm
              (within .elements rest ++
                h.declaration :: (within .groups rest ++ within .frameGroups rest)) := by
            rw [List.append_assoc] at hmore
            exact hmore.trans List.perm_middle.symm
          simpa [within_cons, taken_cons, hfile] using hplace
      | frameGroups =>
          have hplace := hmore.trans List.perm_middle.symm
          simpa [within_cons, taken_cons, hfile] using hplace
      | frames => simpa [within_cons, taken_cons, hfile] using ih

end Handle

def Call.asks : Call → Bool
  | element _ => true
  | group _ => true
  | must _ => false
  | mustRef _ => false

def Call.handOut : Call → Builder (Option Handle)
  | element selector => do return some (.element selector (← Builder.element selector))
  | group selector => do return some (.group selector (← Builder.group selector))
  | must constraints => do
      Builder.must constraints
      return none
  | mustRef factory => do
      Builder.mustRef factory
      return none

/-- Makes calls in order, and gives the references that they get. -/
def Builder.handOut : List Call → Builder (List Handle)
  | [] => pure []
  | call :: rest => do
      let handle? ← call.handOut
      let later ← handOut rest
      return handle?.toList ++ later

/-- The references that calls get in a new session. -/
def handedOut (calls : List Call) : List Handle := (Builder.handOut calls Session.start).1

namespace Session

variable {s : Session} {handles : List Handle}

/-! ## One call after the other -/

theorem handOut_cons (call : Call) (rest : List Call) (s : Session) :
    Builder.handOut (call :: rest) s =
      ((call.handOut s).1.toList ++ (Builder.handOut rest (call.handOut s).2).1,
        (Builder.handOut rest (call.handOut s).2).2) := rfl

theorem handOut_append (before after : List Call) (s : Session) :
    Builder.handOut (before ++ after) s =
      ((Builder.handOut before s).1 ++ (Builder.handOut after (Builder.handOut before s).2).1,
        (Builder.handOut after (Builder.handOut before s).2).2) := by
  induction before generalizing s with
  | nil => rfl
  | cons call rest ih => rw [List.cons_append, handOut_cons, ih, handOut_cons, List.append_assoc]

/-- Keeping the references makes no difference to the session. -/
theorem snd_handOut (calls : List Call) (s : Session) :
    (Builder.handOut calls s).2 = (Builder.makeAll calls s).2 := by
  induction calls generalizing s with
  | nil => rfl
  | cons call rest ih =>
      have hcall : (call.handOut s).2 = (call.make s).2 := by
        cases call <;> rfl
      calc
        (Builder.handOut (call :: rest) s).2 = (Builder.makeAll rest (call.handOut s).2).2 := ih _
        _ = (Builder.makeAll rest (call.make s).2).2 := by rw [hcall]

/-! ## Every reference is filed -/

/-- The session holds what was handed out, each at its place and in the order of the calls. -/
structure Filed (handles : List Handle) (s : Session) : Prop where
  filed : ∀ file ≠ File.frames, file.declarations s.spec = Handle.within file handles
  frames : Handle.within .frames handles ⊆ [⟨viewKey, .view⟩, ⟨canvasKey, .canvas⟩]

theorem filed_start : Filed [] start where
  filed := by
    intro file hfile
    cases file <;> first | rfl | exact absurd rfl hfile
  frames := by simp [Handle.within]

/-- A call files what it hands out behind what was filed before, unless that is a frame. -/
theorem declarations_handOut (call : Call) (s : Session) {file : File} (hfile : file ≠ .frames) :
    file.declarations (call.handOut s).2.spec =
      file.declarations s.spec ++ Handle.within file (call.handOut s).1.toList := by
  have hkept (ds : List Declaration) : ds = ds ++ [] := (List.append_nil ds).symm
  -- At most one of the files gets longer.
  cases call with
  | element selector =>
      cases selector <;> cases file <;> first | exact absurd rfl hfile | exact hkept _ | rfl
  | group selector =>
      cases selector <;> cases file <;> first | exact absurd rfl hfile | exact hkept _ | rfl
  | must constraints => cases file <;> first | exact absurd rfl hfile | exact hkept _
  | mustRef factory => cases file <;> first | exact absurd rfl hfile | exact hkept _

/-- A frame that is asked for as an element is the one that every spec has. -/
theorem frames_handOut (call : Call) (s : Session) :
    Handle.within .frames (call.handOut s).1.toList ⊆
      [⟨viewKey, .view⟩, ⟨canvasKey, .canvas⟩] := by
  cases call with
  | element selector =>
      cases selector with
      | css query => exact List.nil_subset _
      | xpath query => exact List.nil_subset _
      | view => exact List.cons_subset.2 ⟨List.mem_cons_self, List.nil_subset _⟩
      | canvas =>
          exact List.cons_subset.2 ⟨List.mem_cons_of_mem _ List.mem_cons_self, List.nil_subset _⟩
  | group selector => cases selector <;> exact List.nil_subset _
  | must constraints => exact List.nil_subset _
  | mustRef factory => exact List.nil_subset _

theorem Filed.handOut (hfiled : Filed handles s) (call : Call) :
    Filed (handles ++ (call.handOut s).1.toList) (call.handOut s).2 where
  filed := by
    intro file hfile
    rw [declarations_handOut call s hfile, hfiled.filed file hfile, Handle.within_append]
  frames := by
    rw [Handle.within_append]
    exact List.append_subset.2 ⟨hfiled.frames, frames_handOut call s⟩

/-- Whatever is called, what is handed out is filed. -/
theorem Filed.handOut_all (hfiled : Filed handles s) (calls : List Call) :
    Filed (handles ++ (Builder.handOut calls s).1) (Builder.handOut calls s).2 := by
  induction calls generalizing s handles with
  | nil => exact (List.append_nil handles).symm ▸ hfiled
  | cons call rest ih =>
      have hrest := ih (hfiled.handOut call)
      rw [handOut_cons]
      simpa only [List.append_assoc] using hrest

theorem filed_handedOut (calls : List Call) :
    Filed (handedOut calls) (Builder.handOut calls start).2 :=
  filed_start.handOut_all calls

/-- A spec declares its frames and what has taken a key. -/
theorem Filed.declarations_perm (hfiled : Filed handles s) :
    s.spec.declarations.Perm
      (⟨viewKey, .view⟩ :: ⟨canvasKey, .canvas⟩ :: Handle.taken handles) := by
  have helements : s.spec.elements = _ := hfiled.filed .elements (by decide)
  have hgroups : s.spec.groups = _ := hfiled.filed .groups (by decide)
  have hframeGroups : s.spec.frameGroups = _ := hfiled.filed .frameGroups (by decide)
  have htaken := (Handle.taken_perm handles).symm
  rw [declarations, helements, hgroups, hframeGroups]
  exact (htaken.cons _).cons _

theorem Filed.declaration_mem (hfiled : Filed handles s) {h : Handle} (hmem : h ∈ handles) :
    h.declaration ∈ s.spec.declarations := by
  refine hfiled.declarations_perm.mem_iff.2 ?_
  by_cases hfile : h.file = .frames
  · have hframe : h.declaration ∈ Handle.within .frames handles :=
      List.mem_map_of_mem (List.mem_filter.2 ⟨hmem, by simpa using hfile⟩)
    exact List.mem_append_left (Handle.taken handles) (hfiled.frames hframe)
  · have htaken : h.declaration ∈ Handle.taken handles :=
      List.mem_map_of_mem (List.mem_filter.2 ⟨hmem, by simpa using hfile⟩)
    exact List.mem_cons_of_mem _ (List.mem_cons_of_mem _ htaken)

/-- What is declared but for the frames was handed out. -/
theorem Filed.exists_handle (hfiled : Filed handles s) {d : Declaration}
    (hd : d ∈ s.spec.declarations) :
    d = ⟨viewKey, .view⟩ ∨ d = ⟨canvasKey, .canvas⟩ ∨ ∃ h ∈ handles, h.declaration = d := by
  have hmem := hfiled.declarations_perm.mem_iff.1 hd
  rcases List.mem_cons.1 hmem with hview | hmem
  · exact .inl hview
  rcases List.mem_cons.1 hmem with hcanvas | htaken
  · exact .inr (.inl hcanvas)
  · rcases List.mem_map.1 htaken with ⟨h, hh, hdecl⟩
    exact .inr (.inr ⟨h, (List.mem_filter.1 hh).1, hdecl⟩)

end Session

/-! ## The references of a session -/

theorem map_call_handOut (calls : List Call) (s : Session) :
    (Builder.handOut calls s).1.map Handle.call = calls.filter Call.asks := by
  induction calls generalizing s with
  | nil => rfl
  | cons call rest ih =>
      have hcall : (call.handOut s).1.toList.map Handle.call = [call].filter Call.asks := by
        cases call <;> rfl
      rw [Session.handOut_cons, List.map_append, hcall, ih, ← List.filter_append,
        List.singleton_append]

theorem wellKept_handOut (calls : List Call) :
    (Builder.handOut calls Session.start).2.WellKept := by
  rw [Session.snd_handOut]
  exact Session.wellKept_makeAll Session.wellKept_start calls

/-- A frame that is asked for as an element is at hand, and the session goes on as it was. -/
theorem handOut_frame {frame : Selector} {ref : ElementRef}
    (hframe : (frame, ref) ∈ [(Selector.view, ElementRef.view), (.canvas, .canvas)])
    (after : List Call) (s : Session) :
    Builder.handOut (.element frame :: after) s =
      (.element frame ref :: (Builder.handOut after s).1, (Builder.handOut after s).2) := by
  rcases List.mem_cons.1 hframe with hview | hframe
  · cases hview
    rfl
  · cases List.mem_singleton.1 hframe
    rfl

theorem selector?_eq_none {s : Spec} {key : String} (hkey : ∀ d ∈ s.declarations, d.key ≠ key) :
    s.selector? key = none := by
  have hfind : s.declarations.find? (·.key == key) = none :=
    List.find?_eq_none.2 fun d hd => by simpa using hkey d hd
  rw [selector?, hfind]
  rfl

/-- What holds of the references of a session, whatever is called in it. -/
theorem references_of_calls (calls : List Call) :
    let spec := build (Builder.handOut calls)
    let handles := handedOut calls
    -- Each call that asks for a reference gets one, for the selector that it asks for.
    handles.map Handle.call = calls.filter Call.asks ∧
    -- The keys that are taken differ from one another and from those of the frames.
    (viewKey :: canvasKey :: (Handle.taken handles).map (·.key)).Nodup ∧
    -- A frame that is asked for as an element is the reference that every spec has.  It takes no
    -- key: all other references and the spec are the same without the call.
    (∀ (before after : List Call) (frame : Selector) (ref : ElementRef),
      (frame, ref) ∈ [(Selector.view, ElementRef.view), (.canvas, .canvas)] →
      calls = before ++ .element frame :: after →
      spec = build (Builder.handOut (before ++ after)) ∧
        ∃ later, handedOut (before ++ after) = handedOut before ++ later ∧
          handles = handedOut before ++ .element frame ref :: later) ∧
    -- What is to be measured is declared in the order of the calls.
    (spec.elements = Handle.within .elements handles ∧
      spec.groups = Handle.within .groups handles) ∧
    -- A key that was handed out stands for the selector that was asked for, and no other key
    -- stands for anything but a frame.
    ((∀ h ∈ handles, spec.selector? h.declaration.key = some h.declaration.selector) ∧
      spec.selector? viewKey = some .view ∧ spec.selector? canvasKey = some .canvas ∧
      ∀ key ∉ viewKey :: canvasKey :: handles.map (·.declaration.key),
        spec.selector? key = none) ∧
    -- No frame is measured.
    (∀ d ∈ spec.elements ++ spec.groups, d.selector.isFrame = false) ∧
    spec.measureInput = .object
      [("elements", .array ((Handle.within .elements handles).map Declaration.encode)),
       ("groups", .array ((Handle.within .groups handles).map Declaration.encode))] := by
  intro spec handles
  have hkept := wellKept_handOut calls
  have hfiled := Session.filed_handedOut calls
  have helements : spec.elements = Handle.within .elements handles :=
    hfiled.filed .elements (by decide)
  have hgroups : spec.groups = Handle.within .groups handles := hfiled.filed .groups (by decide)
  have hselector {d : Declaration} (hd : d ∈ spec.declarations) :
      spec.selector? d.key = some d.selector := selector?_of_mem hkept.nodup_keys hd
  refine ⟨map_call_handOut calls Session.start, ?_, ?_, ⟨helements, hgroups⟩,
    ⟨?_, ?_, ?_, ?_⟩, ?_, ?_⟩
  · have hkeys := hfiled.declarations_perm.map (·.key)
    exact hkeys.nodup_iff.1 hkept.nodup_keys
  · intro before after frame ref hframe hcalls
    have hwith := Session.handOut_append before (.element frame :: after) Session.start
    have hwithout := Session.handOut_append before after Session.start
    rw [handOut_frame hframe, ← hcalls] at hwith
    refine ⟨?_, _, congrArg Prod.fst hwithout, congrArg Prod.fst hwith⟩
    exact congrArg Session.spec ((congrArg Prod.snd hwith).trans (congrArg Prod.snd hwithout).symm)
  · intro h hmem
    exact hselector (hfiled.declaration_mem hmem)
  · exact hselector (d := ⟨viewKey, .view⟩) List.mem_cons_self
  · exact hselector (d := ⟨canvasKey, .canvas⟩) (List.mem_cons_of_mem _ List.mem_cons_self)
  · intro key hkey
    refine selector?_eq_none fun d hd hsame => hkey ?_
    rcases hfiled.exists_handle hd with rfl | rfl | ⟨h, hmem, rfl⟩
    · exact List.mem_cons.2 (.inl hsame.symm)
    · exact List.mem_cons_of_mem _ (List.mem_cons.2 (.inl hsame.symm))
    · have hkeys := List.mem_map_of_mem (f := fun h : Handle => h.declaration.key) hmem
      exact List.mem_cons_of_mem _ (List.mem_cons_of_mem _ (hsame ▸ hkeys))
  · intro d hd
    rcases List.mem_append.1 hd with helement | hgroup
    · exact (hkept.elements d helement).2
    · exact (hkept.groups d hgroup).2
  · rw [measureInput, helements, hgroups]

/-- A frame as a group takes a key, a frame as an element takes none, and neither is measured. -/
theorem references_of_mixed_calls :
    let calls : List Call := [.group .view, .element .canvas, .element (.css "main"),
      .must (.one (.flagged (.declared ⟨"el-2"⟩) .visible)), .group (.xpath "//li")]
    let spec := build (Builder.handOut calls)
    (Handle.group .view ⟨"group-1"⟩ ∈ handedOut calls ∧ spec.selector? "group-1" = some .view) ∧
      (calls = [Call.group .view] ++ .element .canvas :: calls.drop 2 ∧
        spec = build (Builder.handOut (.group .view :: calls.drop 2))) ∧
      ("group-2" ∉ viewKey :: canvasKey :: (handedOut calls).map (·.declaration.key) ∧
        spec.selector? "group-2" = none) ∧
      (⟨"group-3", .xpath "//li"⟩ ∈ spec.elements ++ spec.groups ∧
        (Selector.xpath "//li").isFrame = false) := by
  intro calls spec
  have hhandles : handedOut calls = [.group .view ⟨"group-1"⟩, .element .canvas .canvas,
      .element (.css "main") ⟨"el-2"⟩, .group (.xpath "//li") ⟨"group-3"⟩] := rfl
  have hgroups : spec.groups = [⟨"group-3", .xpath "//li"⟩] := rfl
  have hview : Handle.group .view ⟨"group-1"⟩ ∈ handedOut calls := by simp [hhandles]
  have hother : "group-2" ∉ viewKey :: canvasKey :: (handedOut calls).map (·.declaration.key) := by
    simp [hhandles, Handle.declaration, viewKey, canvasKey, ElementRef.canvas]
  have hitem : ⟨"group-3", .xpath "//li"⟩ ∈ spec.elements ++ spec.groups := by simp [hgroups]
  have hlaws := references_of_calls calls
  rcases hlaws with ⟨-, -, hframe, -, ⟨hselector, -, -, hnone⟩, hmeasured, -⟩
  exact ⟨⟨hview, hselector _ hview⟩,
    ⟨rfl, (hframe [.group .view] _ .canvas .canvas (by simp) rfl).1⟩,
    ⟨hother, hnone "group-2" hother⟩, ⟨hitem, hmeasured _ hitem⟩⟩

end Spec
end LayoutAudit
