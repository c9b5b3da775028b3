import LayoutAudit.Server.Ports
import Mathlib.Data.List.Infix
import Mathlib.Data.List.Range

/-!
# Proofs.Server.Ports — the search for a port

The search goes through the ports from the preferred one on, in order.  Two limits end the row of
ports, the number of attempts and the last port there is, and whichever comes first counts.  A port in
use is passed over, and any other one ends the search.

* `Server.portsFrom` — the ports that may be tried from a place on;
* `Server.Search` — what is tried of a row of ports, and what comes of it;
* `Server.search_tryFrom` — the search is one through such a row;
* `Server.next?_eq` — the port that is announced is the next one of the row;
* `Server.search_for_port` — the ports that are tried, the result, and what is announced in between.
-/

namespace LayoutAudit
namespace Server

variable {probe : Nat → PortState} {preferred i count port : Nat}

/-! ## The row of ports -/

/-- The ports from place `i` on: at most so many, and none beyond the last one. -/
def portsFrom (preferred i count : Nat) : List Nat :=
  List.range' (preferred + i) (min count (portBound - (preferred + i)))

theorem candidate?_eq_some_iff :
    candidate? preferred i = some port ↔ port = preferred + i ∧ port < portBound := by
  unfold candidate?
  split_ifs with hfits
  · constructor
    · rintro ⟨⟩
      exact ⟨rfl, hfits⟩
    · rintro ⟨rfl, -⟩
      rfl
  · simp only [false_iff, not_and]
    rintro rfl
    exact hfits

theorem portsFrom_of_some (h : candidate? preferred i = some port) :
    portsFrom preferred i (count + 1) = port :: portsFrom preferred (i + 1) count := by
  rcases candidate?_eq_some_iff.1 h with ⟨rfl, hfits⟩
  have hcount : min (count + 1) (portBound - (preferred + i)) =
      min count (portBound - (preferred + (i + 1))) + 1 := by omega
  rw [portsFrom, hcount, List.range'_succ]
  rfl

theorem portsFrom_of_none (h : candidate? preferred i = none) : portsFrom preferred i count = [] := by
  have hbeyond : portBound ≤ preferred + i := by
    by_contra hfits
    have hsome := candidate?_eq_some_iff.2 ⟨rfl, Nat.lt_of_not_le hfits⟩
    rw [h] at hsome
    cases hsome
  have hcount : min count (portBound - (preferred + i)) = 0 := by omega
  rw [portsFrom, hcount]
  rfl

/-- Behind attempt `i` the next port of the row is announced, and none at its end. -/
theorem next?_eq (preferred i attempts : Nat) :
    next? preferred i attempts = (portsFrom preferred 0 attempts)[i + 1]? := by
  unfold next? candidate? portsFrom
  by_cases hplace : i + 1 < min attempts (portBound - preferred)
  · have hattempt : i + 1 < attempts := by omega
    have hfits : preferred + (i + 1) < portBound := by omega
    have hport : (List.range' preferred (min attempts (portBound - preferred)))[i + 1]? =
        some (preferred + (i + 1)) := by
      rw [List.getElem?_range' hplace, Nat.one_mul]
    simp only [Nat.add_zero, hport, hattempt, hfits, if_true]
  · have hend : (List.range' preferred (min attempts (portBound - preferred)))[i + 1]? = none := by
      rw [List.getElem?_eq_none_iff, List.length_range']
      omega
    simp only [Nat.add_zero, hend]
    split_ifs
    · omega
    · rfl
    · rfl

/-! ## Searching a row -/

/-- Of a row of ports these are tried, and this is the result, if one of them is not in use. -/
inductive Search (probe : Nat → PortState) : List Nat → List Nat → Option (Attempt Nat) → Prop where
  | nothing : Search probe [] [] none
  | free {port : Nat} {rest : List Nat} (hstate : probe port = .free) :
      Search probe (port :: rest) [port] (some (.ok port))
  | refused {port : Nat} {rest : List Nat} {reason : String}
      (hstate : probe port = .refused reason) :
      Search probe (port :: rest) [port] (some (.error (.bind port reason)))
  | inUse {port : Nat} {rest tried : List Nat} {result : Option (Attempt Nat)}
      (hstate : probe port = .inUse) (hrest : Search probe rest tried result) :
      Search probe (port :: rest) (port :: tried) result

/-- By induction on the number of attempts that are left. -/
theorem search_tryFrom (probe : Nat → PortState) (preferred i fuel : Nat) :
    Search probe (portsFrom preferred i fuel) (tryFrom probe preferred i fuel).1
      (tryFrom probe preferred i fuel).2 := by
  induction fuel generalizing i with
  | zero =>
      have hports : portsFrom preferred i 0 = [] := by simp [portsFrom]
      rw [hports]
      exact .nothing
  | succ fuel ih =>
      cases hcandidate : candidate? preferred i with
      | none =>
          rw [portsFrom_of_none hcandidate, tryFrom, hcandidate]
          exact .nothing
      | some port =>
          rw [portsFrom_of_some hcandidate]
          cases hstate : probe port with
          | free =>
              simp only [tryFrom, hcandidate, hstate]
              exact .free hstate
          | inUse =>
              simp only [tryFrom, hcandidate, hstate]
              exact .inUse hstate (ih (i + 1))
          | refused reason =>
              simp only [tryFrom, hcandidate, hstate]
              exact .refused hstate

namespace Search

variable {ports tried tried' : List Nat} {result result' : Option (Attempt Nat)}

/-- The row and the states of its ports determine the search. -/
theorem unique (h : Search probe ports tried result) (h' : Search probe ports tried' result') :
    tried = tried' ∧ result = result' := by
  induction h generalizing tried' with
  | nothing =>
      cases h'
      exact ⟨rfl, rfl⟩
  | free hstate => cases h' <;> simp_all
  | refused hstate => cases h' <;> simp_all
  | inUse hstate _ ih =>
      cases h' with
      | free hstate' => simp_all
      | refused hstate' => simp_all
      | inUse _ hrest' =>
          rcases ih hrest' with ⟨rfl, rfl⟩
          exact ⟨rfl, rfl⟩

theorem isPrefix (h : Search probe ports tried result) : tried <+: ports := by
  induction h with
  | nothing => exact List.prefix_rfl
  | free _ => exact List.prefix_iff_eq_take.2 rfl
  | refused _ => exact List.prefix_iff_eq_take.2 rfl
  | inUse _ _ ih => exact List.prefix_cons_inj _ |>.2 ih

/-- Behind a port in use the next one of the row is tried. -/
theorem getElem?_succ (h : Search probe ports tried result) {i port : Nat}
    (hport : tried[i]? = some port) (hstate : probe port = .inUse) :
    tried[i + 1]? = ports[i + 1]? := by
  induction h generalizing i with
  | nothing => cases hport
  | free hfree =>
      cases i with
      | zero => simp_all
      | succ i => simp at hport
  | refused hrefused =>
      cases i with
      | zero => simp_all
      | succ i => simp at hport
  | inUse _ hrest ih =>
      cases i with
      | zero =>
          -- The search of the rest begins with its first port, whatever becomes of it.
          cases hrest <;> rfl
      | succ i => exact ih hport

/-- The first port that is not in use is the last one that is tried. -/
theorem of_find? (h : Search probe ports tried result) {port : Nat}
    (hfind : ports.find? (fun port => probe port ≠ .inUse) = some port) :
    tried.getLast? = some port ∧ (probe port = .free → result = some (.ok port)) ∧
      ∀ reason, probe port = .refused reason → result = some (.error (.bind port reason)) := by
  induction h with
  | nothing => cases hfind
  | free hfree =>
      simp only [List.find?_cons, hfree] at hfind
      cases hfind
      simp [hfree]
  | refused hrefused =>
      simp only [List.find?_cons, hrefused] at hfind
      cases hfind
      simp [hrefused]
  | inUse hstate _ ih =>
      simp only [List.find?_cons, hstate] at hfind
      rcases ih hfind with ⟨hlast, hresult⟩
      refine ⟨?_, hresult⟩
      rw [List.getLast?_cons, hlast]
      rfl

theorem of_inUse (h : Search probe ports tried result)
    (hall : ∀ port ∈ ports, probe port = .inUse) : tried = ports ∧ result = none := by
  induction h with
  | nothing => exact ⟨rfl, rfl⟩
  | free hfree => simp_all
  | refused hrefused => simp_all
  | inUse _ _ ih =>
      rcases ih fun port hport => hall port (List.mem_cons_of_mem _ hport) with ⟨rfl, rfl⟩
      exact ⟨rfl, rfl⟩

end Search

/-- The search for a port, whatever the states of the ports and whatever the number of attempts.

1. The ports that are tried are the first of a row that ends with the number of attempts or with the
   last port; the number of attempts beyond that makes no difference.
2. The port at place `i` is `i` behind the preferred one.
3. The first port that is not in use is the last one that is tried, and the result.
4. If all ports of the row are in use, all are tried, and then there is no result.
5. Behind a port in use the port that is announced is the one that is tried next, if any is. -/
theorem search_for_port (probe : Nat → PortState) (preferred attempts : Nat) :
    let ports := List.range' preferred (min attempts (portBound - preferred))
    let tried := portsTried probe preferred attempts
    let found := findPort probe preferred attempts
    (tried <+: ports ∧
      tryFrom probe preferred 0 attempts = tryFrom probe preferred 0 ports.length) ∧
    (∀ i port, tried[i]? = some port → port = preferred + i ∧ i < attempts ∧ port < portBound) ∧
    (∀ port, ports.find? (fun port => probe port ≠ .inUse) = some port →
      tried.getLast? = some port ∧ (probe port = .free → found = .ok port) ∧
        ∀ reason, probe port = .refused reason → found = .error (.bind port reason)) ∧
    ((∀ port ∈ ports, probe port = .inUse) →
      tried = ports ∧ found = .error (.portsExhausted preferred attempts)) ∧
    (∀ i port, tried[i]? = some port → probe port = .inUse →
      next? preferred i attempts = tried[i + 1]?) := by
  intro ports tried found
  have hsearch : Search probe ports tried (tryFrom probe preferred 0 attempts).2 :=
    search_tryFrom probe preferred 0 attempts
  have hfound {result : Attempt Nat} (h : (tryFrom probe preferred 0 attempts).2 = some result) :
      found = result := by
    simp [found, findPort, h]
  refine ⟨⟨hsearch.isPrefix, ?_⟩, ?_, ?_, ?_, ?_⟩
  · -- With as many attempts as there are ports the row is the same.
    have hrow : portsFrom preferred 0 ports.length = ports := by
      simp [ports, portsFrom]
    have hshort := search_tryFrom probe preferred 0 ports.length
    rw [hrow] at hshort
    rcases hsearch.unique hshort with ⟨htried, hresult⟩
    exact Prod.ext htried hresult
  · intro i port hport
    rcases List.getElem?_eq_some_iff.1 hport with ⟨hlt, rfl⟩
    have hrow := List.prefix_iff_getElem?.1 hsearch.isPrefix i hlt
    rcases List.getElem?_eq_some_iff.1 hrow with ⟨hplace, hport⟩
    simp only [ports, List.length_range', List.getElem_range', Nat.one_mul] at hplace hport
    omega
  · intro port hfind
    rcases hsearch.of_find? hfind with ⟨hlast, hfree, hrefused⟩
    exact ⟨hlast, fun h => hfound (hfree h), fun reason h => hfound (hrefused reason h)⟩
  · intro hall
    rcases hsearch.of_inUse hall with ⟨htried, hresult⟩
    exact ⟨htried, by simp [found, findPort, hresult]⟩
  · intro i port hport hstate
    rw [hsearch.getElem?_succ hport hstate]
    exact next?_eq preferred i attempts

/-- The last two ports, with more attempts than there are ports.  The first one is in use, and the
other one is either in use as well or not to be had. -/
theorem search_for_last_ports :
    let attempts := UInt64.size - 1
    let ports := List.range' 65534 (min attempts (portBound - 65534))
    let held (_ : Nat) : PortState := .inUse
    let guarded (port : Nat) : PortState := if port = 65534 then .inUse else .refused "denied"
    ((∀ port ∈ ports, held port = .inUse) ∧ portsTried held 65534 attempts = [65534, 65535] ∧
      findPort held 65534 attempts = .error (.portsExhausted 65534 attempts) ∧
      (portsTried held 65534 attempts)[1]? = some 65535 ∧ next? 65534 1 attempts = none) ∧
    (ports.find? (fun port => guarded port ≠ .inUse) = some 65535 ∧
      guarded 65535 = .refused "denied" ∧
      (portsTried guarded 65534 attempts).getLast? = some 65535 ∧
      findPort guarded 65534 attempts = .error (.bind 65535 "denied")) := by
  intro attempts ports held guarded
  have hports : ports = [65534, 65535] := by decide
  have hheld := search_for_port held 65534 attempts
  have hguarded := search_for_port guarded 65534 attempts
  rcases hheld.2.2.2.1 fun _ _ => rfl with ⟨htried, hexhausted⟩
  have htwo : portsTried held 65534 attempts = [65534, 65535] := htried.trans hports
  have hsecond : (portsTried held 65534 attempts)[1]? = some 65535 := by
    rw [htwo]
    rfl
  have hannounced := hheld.2.2.2.2 1 65535 hsecond rfl
  have hfind : ports.find? (fun port => guarded port ≠ .inUse) = some 65535 := by
    rw [hports]
    decide
  rcases hguarded.2.2.1 65535 hfind with ⟨hlast, -, hrefused⟩
  refine ⟨⟨fun _ _ => rfl, htwo, hexhausted, hsecond, ?_⟩, hfind, rfl, hlast, ?_⟩
  · rw [hannounced, htwo]
    rfl
  · exact hrefused "denied" rfl

end Server
end LayoutAudit
