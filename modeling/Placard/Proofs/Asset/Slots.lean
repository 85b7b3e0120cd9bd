/-
# Every slot is accounted for

A slot is free or held by a download that is under way, whatever has happened to the calls of a
fetcher and in whatever order: `Accounted` is kept by each event, and so by any run of them.

| the invariant says of | |
| :-- | :-- |
| `count` | all slots: each is free, or held by one download |
| `full` | calls that wait: while there are any, no slot is free |
| `waits`, `order` | the queue: it has just the calls that wait, in the order of their arrival |
| `ahead` | downloads under way: they have arrived before all calls that wait |

There are four kinds of steps (`Step`).  Two of them give a slot up or take one, and one is easily
forgotten: a caller that gives up waiting has no slot to give back, but must leave the queue, or a
slot would be passed on to a call that is gone.
-/
import Mathlib.Data.List.Basic
import Placard.Asset.Slots

namespace Placard
namespace Downloads

variable {d d' : Downloads} {call head : Nat} {p q : Progress} {rest : List Nat}

@[simp] theorem run_nil (d : Downloads) : d.run [] = d := rfl

@[simp] theorem run_cons (d : Downloads) (e : DownloadEvent) (events : List DownloadEvent) :
    d.run (e :: events) = (d.step e).run events := rfl

/-! ## Single moves -/

/-- The call waits for a slot. -/
def Waits (d : Downloads) (call : Nat) : Prop := d.calls[call]? = some .waiting

/-- The call holds a slot. -/
def Holds (d : Downloads) (call : Nat) : Prop :=
  ∃ p, d.calls[call]? = some p ∧ p.isUnderWay = true

theorem move_calls (h : d.calls[call]? = some p) (other : Nat) :
    (d.move call q).calls[other]? = if other = call then some q else d.calls[other]? := by
  have hn : call < d.calls.length := (List.getElem?_eq_some_iff.mp h).1
  unfold move
  rw [List.getElem?_set, if_pos hn]
  by_cases ho : other = call
  · rw [if_pos ho, if_pos ho.symm]
  · rw [if_neg ho, if_neg fun hc => ho hc.symm]

theorem move_waits (h : d.calls[call]? = some p) (hq : q ≠ .waiting) {other : Nat} :
    (d.move call q).Waits other ↔ other ≠ call ∧ d.Waits other := by
  unfold Waits
  rw [move_calls h]
  by_cases ho : other = call
  · rw [if_pos ho]
    exact ⟨fun hw => absurd (Option.some.inj hw) hq, fun hw => absurd ho hw.1⟩
  · rw [if_neg ho]
    exact ⟨fun hw => ⟨ho, hw⟩, And.right⟩

theorem move_holds (h : d.calls[call]? = some p) {other : Nat} :
    (d.move call q).Holds other → other = call ∧ q.isUnderWay = true ∨ d.Holds other := by
  rintro ⟨r, hr, hu⟩
  rw [move_calls h] at hr
  by_cases ho : other = call
  · rw [if_pos ho] at hr
    cases hr
    exact Or.inl ⟨ho, hu⟩
  · rw [if_neg ho] at hr
    exact Or.inr ⟨r, hr, hu⟩

theorem underWay_move (h : d.calls[call]? = some p) :
    (d.move call q).underWay + p.isUnderWay.toNat = d.underWay + q.isUnderWay.toNat := by
  obtain ⟨hn, hp⟩ := List.getElem?_eq_some_iff.mp h
  have hle := List.boole_getElem_le_countP (p := Progress.isUnderWay) hn
  unfold underWay move
  rw [List.countP_set hn]
  rw [hp] at hle ⊢
  generalize d.calls.countP Progress.isUnderWay = n at hle ⊢
  generalize p.isUnderWay = a at hle ⊢
  cases a <;> cases q.isUnderWay <;> simp at hle ⊢ <;> omega

/-- The same calls with another queue. -/
def withQueue (d : Downloads) (queue : List Nat) : Downloads :=
  { d with slots := { d.slots with waiting := queue } }

theorem leave_of_nil (h : d.slots.waiting = []) :
    d.leave call p = { d.move call p with slots := { d.slots with free := d.slots.free + 1 } } := by
  simp only [leave, Slots.giveUp, h]

theorem leave_of_cons (h : d.slots.waiting = head :: rest) :
    d.leave call p = ((d.move call p).withQueue rest).move head .requested := by
  simp only [leave, Slots.giveUp, h]
  rfl

theorem arrive_of_free (h : 0 < d.slots.free) :
    d.arrive =
      { d with
        slots := { d.slots with free := d.slots.free - 1 }
        calls := d.calls ++ [.requested] } := by
  simp only [arrive, Slots.take, if_pos h, if_true]

theorem arrive_of_full (h : d.slots.free = 0) :
    d.arrive =
      { d with
        slots := { d.slots with waiting := d.slots.waiting ++ [d.calls.length] }
        calls := d.calls ++ [.waiting] } := by
  simp [arrive, Slots.take, h]

/-! ## Steps -/

/-- The steps that change something. -/
inductive Step (d : Downloads) : Downloads → Prop
  | arrive : Step d d.arrive
  | answer {call : Nat} (status : Nat) (h : d.calls[call]? = some .requested) :
      Step d (d.move call (.answered status))
  | leave {call : Nat} {p q : Progress} (h : d.calls[call]? = some p) (hp : p.isUnderWay = true)
      (hq : q.isOver = true) : Step d (d.leave call q)
  | withdraw {call : Nat} (h : d.calls[call]? = some .waiting) : Step d (d.withdraw call)

theorem step_cases (d : Downloads) (e : DownloadEvent) : d.step e = d ∨ Step d (d.step e) := by
  cases e with
  | arrive => exact Or.inr .arrive
  | head call status =>
      unfold step
      dsimp only
      split
      · cases status with
        | ok status => exact Or.inr (.answer status ‹_›)
        | error b => exact Or.inr (.leave ‹_› rfl rfl)
      · exact Or.inl rfl
  | body call content =>
      unfold step
      dsimp only
      split
      · exact Or.inr (.leave ‹_› rfl rfl)
      · exact Or.inl rfl
  | abandon call =>
      unfold step
      dsimp only
      split
      · exact Or.inr (.withdraw ‹_›)
      · exact Or.inr (.leave ‹_› rfl rfl)
      · exact Or.inr (.leave ‹_› rfl rfl)
      · exact Or.inl rfl

/-! ## The queue -/

/-- The queue has just the calls that wait, in the order of their arrival, and all calls that hold a
slot have arrived before them. -/
structure Queued (d : Downloads) : Prop where
  waits : ∀ call, call ∈ d.slots.waiting ↔ d.Waits call
  order : d.slots.waiting.Pairwise (· < ·)
  ahead : ∀ call ∈ d.slots.waiting, ∀ other, d.Holds other → other < call

theorem lt_length (h : d.calls[call]? = some p) : call < d.calls.length :=
  (List.getElem?_eq_some_iff.mp h).1

theorem calls_concat {other : Nat} :
    (d.calls ++ [p])[other]? = some q ↔
      d.calls[other]? = some q ∨ other = d.calls.length ∧ p = q := by
  rw [List.getElem?_append]
  split
  · rename_i hn
    exact ⟨Or.inl, fun h => h.resolve_right fun hl => Nat.ne_of_lt hn hl.1⟩
  · rename_i hn
    rw [List.getElem?_singleton]
    constructor
    · intro h
      split at h
      · exact Or.inr ⟨by omega, Option.some.inj h⟩
      · cases h
    · rintro (h | ⟨rfl, rfl⟩)
      · exact absurd (lt_length h) hn
      · simp

theorem Queued.move (h : Queued d) (hc : d.calls[call]? = some p) (hp : p ≠ .waiting)
    (hq : q ≠ .waiting) (hu : q.isUnderWay = true → p.isUnderWay = true) :
    Queued (d.move call q) where
  waits := fun other => by
    rw [move_waits hc hq]
    refine (h.waits other).trans ⟨fun hw => ⟨?_, hw⟩, And.right⟩
    rintro rfl
    exact hp (Option.some.inj (hc.symm.trans hw))
  order := h.order
  ahead := fun w hw other ho => by
    rcases move_holds hc ho with ⟨rfl, hr⟩ | ho
    · exact h.ahead w hw other ⟨p, hc, hu hr⟩
    · exact h.ahead w hw other ho

theorem Queued.advance (h : Queued d) (hw : d.slots.waiting = head :: rest) :
    Queued ((d.withQueue rest).move head .requested) := by
  have hmem : ∀ other, d.Waits other ↔ other = head ∨ other ∈ rest := fun other => by
    rw [← h.waits, hw, List.mem_cons]
  have hc : (d.withQueue rest).calls[head]? = some .waiting := (hmem head).mpr (Or.inl rfl)
  have horder := h.order
  rw [hw, List.pairwise_cons] at horder
  refine ⟨fun other => ?_, horder.2, fun w hr other ho => ?_⟩
  · rw [move_waits hc (by simp)]
    refine Iff.trans ?_ (and_congr_right' (hmem other)).symm
    constructor
    · intro hr
      exact ⟨Nat.ne_of_gt (horder.1 other hr), Or.inr hr⟩
    · rintro ⟨hne, ho⟩
      exact ho.resolve_left hne
  · rcases move_holds hc ho with ⟨rfl, -⟩ | ho
    · exact horder.1 w hr
    · exact h.ahead w (hw ▸ List.mem_cons_of_mem _ hr) other ho

theorem Queued.withdraw (h : Queued d) (hc : d.Waits call) : Queued (d.withdraw call) where
  waits := fun other => by
    have hnodup : d.slots.waiting.Nodup := h.order.imp Nat.ne_of_lt
    rw [show (d.withdraw call).Waits other ↔ _ from move_waits hc (by simp), ← h.waits]
    exact hnodup.mem_erase_iff
  order := h.order.sublist List.erase_sublist
  ahead := fun w hw other ho => by
    rcases move_holds hc ho with ⟨-, hu⟩ | ho
    · cases hu
    · exact h.ahead w (List.mem_of_mem_erase hw) other ho

theorem Queued.concat (h : Queued d) :
    Queued
      { d with
        slots := { d.slots with waiting := d.slots.waiting ++ [d.calls.length] }
        calls := d.calls ++ [.waiting] } where
  waits := fun other => by
    rw [List.mem_append, List.mem_singleton, h.waits]
    exact (calls_concat.trans (or_congr_right (and_iff_left rfl))).symm
  order := by
    refine List.pairwise_append.mpr ⟨h.order, List.pairwise_singleton _ _, fun a ha b hb => ?_⟩
    rw [List.mem_singleton.mp hb]
    exact lt_length ((h.waits a).mp ha)
  ahead := by
    rintro w hw other ⟨p, ho, hu⟩
    rcases calls_concat.mp ho with ho | ⟨-, rfl⟩
    · rcases List.mem_append.mp hw with hw | hw
      · exact h.ahead w hw other ⟨p, ho, hu⟩
      · rw [List.mem_singleton.mp hw]
        exact lt_length ho
    · cases hu

/-! ## The invariant -/

/-- Every slot is accounted for. -/
structure Accounted (d : Downloads) : Prop extends Queued d where
  count : d.slots.free + d.underWay = d.total
  full : d.slots.waiting = [] ∨ d.slots.free = 0

theorem accounted_ofSettings (s : FetchSettings) : Accounted (ofSettings s) where
  waits := fun call => by simp [ofSettings, Waits]
  order := List.Pairwise.nil
  ahead := fun call h => absurd h List.not_mem_nil
  count := rfl
  full := Or.inl rfl

/-- A new call is admitted if a slot is free, and then nobody waits. -/
theorem Accounted.arrive (h : Accounted d) : Accounted d.arrive := by
  have hcount := h.count
  have happend : ∀ p, (d.calls ++ [p]).countP Progress.isUnderWay =
      d.underWay + p.isUnderWay.toNat := fun p => by
    rw [List.countP_append, List.countP_singleton]
    cases p.isUnderWay <;> rfl
  rcases Nat.eq_zero_or_pos d.slots.free with hf | hf
  · rw [arrive_of_full hf]
    exact ⟨h.toQueued.concat, (congrArg _ (happend .waiting)).trans hcount, Or.inr hf⟩
  · have hw : d.slots.waiting = [] := h.full.resolve_right (Nat.pos_iff_ne_zero.mp hf)
    rw [arrive_of_free hf]
    refine ⟨⟨fun other => ?_, h.order, fun w hm => absurd (hw ▸ hm) List.not_mem_nil⟩, ?_,
      Or.inl hw⟩
    · refine (h.waits other).trans (calls_concat.trans (or_iff_left ?_)).symm
      rintro ⟨-, hp⟩
      cases hp
    · refine (congrArg _ (happend .requested)).trans ?_
      show d.slots.free - 1 + (d.underWay + 1) = d.total
      omega

/-- A download goes on and keeps its slot. -/
theorem Accounted.answer (h : Accounted d) {status : Nat}
    (hc : d.calls[call]? = some .requested) : Accounted (d.move call (.answered status)) := by
  have hmoved := underWay_move (q := .answered status) hc
  exact ⟨h.toQueued.move hc (by simp) (by simp) fun _ => rfl,
    (congrArg _ (Nat.add_right_cancel hmoved)).trans h.count, h.full⟩

theorem isUnderWay_of_isOver (h : p.isOver = true) : p.isUnderWay = false := by
  cases p with
  | ended result => rfl
  | abandoned => rfl
  | _ => cases h

/-- The slot of a download that ends goes to the call that has waited longest, or is free if nobody
waits. -/
theorem Accounted.leave (h : Accounted d) (hc : d.calls[call]? = some p)
    (hp : p.isUnderWay = true) (hq : q.isOver = true) : Accounted (d.leave call q) := by
  have hcount := h.count
  have hu := isUnderWay_of_isOver hq
  have hdown := underWay_move (q := q) hc
  have hqueue : Queued (d.move call q) := h.toQueued.move hc (by rintro rfl; cases hp)
    (by rintro rfl; cases hq) fun hx => absurd (hu.symm.trans hx) (by simp)
  rw [hp, hu, Bool.toNat_true, Bool.toNat_false] at hdown
  cases hw : d.slots.waiting with
  | nil =>
      rw [leave_of_nil hw]
      refine ⟨⟨hqueue.waits, hqueue.order, hqueue.ahead⟩, ?_, Or.inl hw⟩
      show d.slots.free + 1 + (d.move call q).underWay = d.total
      omega
  | cons head rest =>
      rw [leave_of_cons hw]
      have hnext : (d.move call q).calls[head]? = some .waiting :=
        (hqueue.waits head).mp (show head ∈ d.slots.waiting by rw [hw]; exact List.mem_cons_self)
      have hup := underWay_move (q := .requested) hnext
      have hf : d.slots.free = 0 := h.full.resolve_left (by rw [hw]; simp)
      refine ⟨hqueue.advance hw, ?_, Or.inr hf⟩
      have hone : (d.move call q).underWay + 1 = ((d.move call q).move head .requested).underWay :=
        hup.symm
      show d.slots.free + ((d.move call q).move head .requested).underWay = d.total
      omega

/-- A call that is given up while it waits leaves the queue. -/
theorem Accounted.withdraw (h : Accounted d) (hc : d.calls[call]? = some .waiting) :
    Accounted (d.withdraw call) := by
  have hmoved := underWay_move (q := .abandoned) hc
  refine ⟨h.toQueued.withdraw hc, (congrArg _ hmoved).trans h.count, h.full.imp_left fun hw => ?_⟩
  show d.slots.waiting.erase call = []
  rw [hw]
  rfl

/-- No event makes or destroys a slot. -/
theorem Step.total_eq (h : Step d d') : d'.total = d.total := by
  cases h with
  | arrive => rfl
  | answer status hc => rfl
  | @leave call p q hc hp hq =>
      cases hw : d.slots.waiting with
      | nil => rw [leave_of_nil hw]; rfl
      | cons head rest => rw [leave_of_cons hw]; rfl
  | withdraw hc => rfl

theorem run_total (d : Downloads) (events : List DownloadEvent) :
    (d.run events).total = d.total := by
  induction events generalizing d with
  | nil => rfl
  | cons e events ih =>
      rw [run_cons, ih]
      rcases step_cases d e with he | he
      · rw [he]
      · exact he.total_eq

/-- Every event keeps the invariant. -/
theorem Accounted.step (h : Accounted d) (e : DownloadEvent) : Accounted (d.step e) := by
  rcases step_cases d e with he | he
  · rw [he]
    exact h
  · generalize d.step e = d' at he ⊢
    cases he with
    | arrive => exact h.arrive
    | answer status hc => exact h.answer hc
    | leave hc hp hq => exact h.leave hc hp hq
    | withdraw hc => exact h.withdraw hc

/-- The invariant holds after any events in any order. -/
theorem Accounted.run (h : Accounted d) (events : List DownloadEvent) :
    Accounted (d.run events) := by
  induction events generalizing d with
  | nil => exact h
  | cons e events ih =>
      rw [run_cons]
      exact ih (h.step e)

theorem run_accounted (s : FetchSettings) (events : List DownloadEvent) :
    Accounted ((ofSettings s).run events) := (accounted_ofSettings s).run events

theorem Accounted.inFlight?_eq (h : Accounted d) : d.inFlight? = some d.underWay := by
  have hcount := h.count
  unfold inFlight?
  rw [if_pos (by omega)]
  exact congrArg some (by omega)

/-! ## A call and its reply -/

/-- A call that ends keeps its end, whichever call gets its slot. -/
theorem Accounted.leave_calls (h : Accounted d) (hc : d.calls[call]? = some p)
    (hp : p.isUnderWay = true) : (d.leave call q).calls[call]? = some q := by
  have hself : (d.move call q).calls[call]? = some q := by rw [move_calls hc, if_pos rfl]
  cases hw : d.slots.waiting with
  | nil =>
      rw [leave_of_nil hw]
      exact hself
  | cons head rest =>
      have hne : head ≠ call := by
        rintro rfl
        have hwait := (h.waits head).mp (hw ▸ List.mem_cons_self)
        cases hc.symm.trans hwait
        cases hp
      rw [leave_of_cons hw]
      exact (List.getElem?_set_ne hne).trans hself

end Downloads

/-- What a call sees of the reply to its download. -/
def Reply.events (call : Nat) : Reply → List DownloadEvent
  | .answer status body => [.head call (.ok status), .body call body]
  | .failure b => [.head call (.error b)]

namespace Downloads

variable {d : Downloads} {call : Nat}

/-- A call that has been admitted ends with what the fetcher makes of the reply. -/
theorem Accounted.run_reply (h : Accounted d) (hc : d.calls[call]? = some .requested)
    (network : Network) (address : WebAddress) :
    (d.run ((network address).events call)).calls[call]? =
      some (.ended (Fetcher.download network address)) := by
  unfold Fetcher.download
  cases network address with
  | answer status body =>
      have ha : (d.move call (.answered status)).calls[call]? = some (.answered status) := by
        rw [move_calls hc, if_pos rfl]
      simp only [Reply.events, run_cons, run_nil, Downloads.step, hc, ha]
      exact (h.answer hc).leave_calls ha rfl
  | failure b =>
      simp only [Reply.events, run_cons, run_nil, Downloads.step, hc]
      exact h.leave_calls hc rfl

/-- A new call is admitted at once if not all slots are held, and waits otherwise. -/
theorem Accounted.arrive_calls (h : Accounted d) :
    d.arrive.calls = d.calls ++ [if d.underWay < d.total then .requested else .waiting] := by
  have hcount := h.count
  rcases Nat.eq_zero_or_pos d.slots.free with hf | hf
  · rw [arrive_of_full hf, if_neg (by omega)]
  · rw [arrive_of_free hf, if_pos (by omega)]

/-- The slots of a fetcher with any concurrency, zero included, after any events in any order.  No
more downloads are under way than there are slots, and the fetcher computes their number without
falling below zero.  A call waits only while all slots are held, by calls that came before it; a new
one is admitted at once if they are not.  Once all calls are over no slot is held.  And a call that
has been admitted ends with what the fetcher makes of the last reply to it. -/
theorem slots_accounted (s : FetchSettings) (events : List DownloadEvent) :
    let d := (ofSettings s).run events
    d.underWay ≤ max s.concurrency 1 ∧
    d.inFlight? = some d.underWay ∧
    (∀ call : Nat, d.calls[call]? = some .waiting → d.underWay = max s.concurrency 1 ∧
      ∀ (other : Nat) (p : Progress), d.calls[other]? = some p → p.isUnderWay = true →
        other < call) ∧
    ((d.step .arrive).calls =
      d.calls ++ [if d.underWay < max s.concurrency 1 then .requested else .waiting]) ∧
    ((∀ p ∈ d.calls, p.isOver = true) → d.inFlight? = some 0) ∧
    (∀ (call : Nat) network address, d.calls[call]? = some .requested →
      (d.run ((network address).events call)).calls[call]? =
        some (.ended (Fetcher.download network address))) := by
  intro d
  have h : Accounted d := run_accounted s events
  have htotal : d.total = max s.concurrency 1 := run_total (ofSettings s) events
  have hcount := h.count
  rw [← htotal]
  refine ⟨by omega, h.inFlight?_eq, fun call hw => ?_, h.arrive_calls, fun hover => ?_, ?_⟩
  · have hmem : call ∈ d.slots.waiting := (h.waits call).mpr hw
    have hf : d.slots.free = 0 := h.full.resolve_left (List.ne_nil_of_mem hmem)
    exact ⟨by omega, fun other p ho hu => h.ahead call hmem other ⟨p, ho, hu⟩⟩
  · have hzero : d.underWay = 0 := List.countP_eq_zero.mpr fun p hp => by
      rw [isUnderWay_of_isOver (hover p hp)]
      exact Bool.false_ne_true
    rw [h.inFlight?_eq, hzero]
  · exact fun call network address hc => h.run_reply hc network address

/-- A fetcher whose concurrency is zero has one slot.  Of three calls the second is given up while it
waits, and the slot of the first goes to the third when the first is late; it is free once the third
is given up too. -/
theorem slots_accounted_of_zero :
    let s : FetchSettings := ⟨0, 1000, "", true⟩
    let events : List DownloadEvent :=
      [.arrive, .arrive, .arrive, .abandon 1, .head 0 (.error .late)]
    let d := (ofSettings s).run events
    d.calls = [.ended (.error .timeout), .abandoned, .requested] ∧
    d.inFlight? = some 1 ∧
    (d.step .arrive).calls = d.calls ++ [.waiting] ∧
    ((ofSettings s).run (events ++ [.abandon 2])).inFlight? = some 0 := by
  intro s events d
  have hcalls : d.calls = [.ended (.error .timeout), .abandoned, .requested] := rfl
  have hone : d.underWay = 1 := by
    rw [underWay, hcalls]
    rfl
  have hlast : ((ofSettings s).run (events ++ [.abandon 2])).calls =
      [.ended (.error .timeout), .abandoned, .abandoned] := rfl
  obtain ⟨-, hflight, -, harrive, -, -⟩ := slots_accounted s events
  obtain ⟨-, -, -, -, hover, -⟩ := slots_accounted s (events ++ [.abandon 2])
  refine ⟨hcalls, hflight.trans (congrArg some hone), ?_, hover fun p hp => ?_⟩
  · rw [harrive]
    exact congrArg (d.calls ++ [·]) (if_neg (by rw [show underWay _ = 1 from hone]; decide))
  · rw [hlast] at hp
    simp only [List.mem_cons, List.not_mem_nil, or_false] at hp
    rcases hp with rfl | rfl | rfl
    all_goals rfl

end Downloads
end Placard
