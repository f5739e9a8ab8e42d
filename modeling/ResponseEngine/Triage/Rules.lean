/-
  Triage/Rules.lean --- many rules on one book.

  A policy belongs to a rule, and an alert's and an endpoint's budget are used up by the
  calls of every rule there is.  The caller passes each call the usage that its own rule
  counts: the reservations of all rules, and of the endpoint's those of the last
  `endpoint_window_seconds` of that rule.  A rule with a longer window than another can
  find more in it than it would have let in; what no run ever exceeds is the largest limit
  of a rule in a span of time that fits every rule's window, and the multiples of it in
  longer ones (`run_serving_shared`).
-/
import ResponseEngine.Triage.Budget

set_option autoImplicit false

namespace ResponseEngine.Triage

open ResponseEngine.Foundation ResponseEngine.Python

variable {Alert Endpoint : Type}

/-! ## Limits -/

/-- The most that the declared bounds of a budget leave in a dimension. -/
def ceiling : Dimension Alert Endpoint → ℕ
  | .alertActions _ => 3
  | .alertBytes _ => 3145728
  | .windowActions _ => 64
  | .windowBytes _ => 67108864
  | .activeFor _ => 8
  | .activeGlobal => 128

theorem limit_le_ceiling (budget : CollectionBudget) (d : Dimension Alert Endpoint) :
    limit budget d ≤ ceiling d := by
  cases d with
  | alertActions => exact budget.maxActionsPerAlert.property.2
  | alertBytes => exact budget.maxBytesPerAlert.property.2
  | windowActions => exact budget.maxActionsPerEndpointWindow.property.2
  | windowBytes => exact budget.maxBytesPerEndpointWindow.property.2
  | activeFor => exact budget.maxActivePerEndpoint.property.2
  | activeGlobal => exact le_rfl

/-- The largest limit that a rule sets for a dimension. -/
def largestLimit (rules : List AutoTriagePolicy) (d : Dimension Alert Endpoint) : ℕ :=
  (rules.map fun p => limit p.budget d).foldr max ⊥

theorem limit_le_largestLimit {rules : List AutoTriagePolicy} {p : AutoTriagePolicy}
    (hp : p ∈ rules) (d : Dimension Alert Endpoint) : limit p.budget d ≤ largestLimit rules d :=
  List.le_max_of_le (List.mem_map_of_mem hp) le_rfl

theorem largestLimit_le_ceiling (rules : List AutoTriagePolicy) (d : Dimension Alert Endpoint) :
    largestLimit rules d ≤ ceiling d := by
  apply List.max_le_of_forall_le
  intro n hn
  obtain ⟨p, _, rfl⟩ := List.mem_map.mp hn
  exact limit_le_ceiling p.budget d

/-- A span that is no longer than the window of any rule. -/
def FitsWindows (rules : List AutoTriagePolicy) (seconds : ℕ) : Prop :=
  ∀ p ∈ rules, seconds ≤ p.budget.endpointWindowSeconds

/-- The declared bounds leave no window under a minute. -/
theorem fitsWindows_minute (rules : List AutoTriagePolicy) : FitsWindows rules 60 :=
  fun p _ => p.budget.endpointWindowSeconds.property.1

/-! ## The book -/

section

variable (Alert Endpoint)

/-- A reservation, with the second in which it was made. -/
structure Booking where
  alert : Alert
  endpoint : Endpoint
  moment : ℕ
  /-- the action has not finished -/
  active : Bool

/-- The reservations of the caller, and the current second. -/
structure Book where
  now : ℕ
  bookings : List (Booking Alert Endpoint)

end

/-- A booking, as it counts in the given number of seconds up to `last`. -/
def Booking.during (b : Booking Alert Endpoint) (seconds last : ℕ) :
    Reservation Alert Endpoint where
  alert := b.alert
  endpoint := b.endpoint
  inWindow := decide (InSpan seconds last b.moment)
  active := b.active

namespace Book

variable {book : Book Alert Endpoint}

/-- The ledger of the given number of seconds up to `last`. -/
def during (book : Book Alert Endpoint) (seconds last : ℕ) : List (Reservation Alert Endpoint) :=
  book.bookings.map fun b => b.during seconds last

/-- The ledger of a rule: what its own window counts now. -/
def ledger (book : Book Alert Endpoint) (rule : AutoTriagePolicy) :
    List (Reservation Alert Endpoint) :=
  book.during rule.budget.endpointWindowSeconds book.now

/-- The book after one more reservation. -/
def reserve (book : Book Alert Endpoint) (alert : Alert) (endpoint : Endpoint) :
    Book Alert Endpoint :=
  { book with
    bookings := book.bookings ++ [{ alert, endpoint, moment := book.now, active := true }] }

/-- Every window counts what was reserved just now. -/
theorem during_now (rule : AutoTriagePolicy) (now : ℕ) (alert : Alert) (endpoint : Endpoint) :
    Booking.during { alert, endpoint, moment := now, active := true }
        rule.budget.endpointWindowSeconds now =
      { alert, endpoint, inWindow := true, active := true } := by
  have hnow : InSpan rule.budget.endpointWindowSeconds now now := by
    have hge := rule.budget.endpointWindowSeconds.property.1
    exact ⟨le_rfl, by omega⟩
  simp [Booking.during, hnow]

theorem ledger_reserve (rule : AutoTriagePolicy) (alert : Alert) (endpoint : Endpoint) :
    (book.reserve alert endpoint).ledger rule =
      Triage.reserve (book.ledger rule) alert endpoint := by
  simp only [ledger, during, reserve, Triage.reserve, List.map_append, List.map_cons, List.map_nil,
    during_now]

end Book

/-! ## The caller -/

variable [DecidableEq Alert] [DecidableEq Endpoint]

/-- What the caller does, for several rules. -/
inductive Service (Alert Endpoint : Type) (rules : List AutoTriagePolicy) where
  /-- lets time pass -/
  | wait (seconds : ℕ)
  /-- evaluates under a rule, and reserves unless the decision is to skip -/
  | triage (rule : {p // p ∈ rules}) (call : Call Alert Endpoint)
  /-- records that the action of a reservation has finished -/
  | finish (index : ℕ)

/-- The caller that serves several rules. -/
def serving (rules : List AutoTriagePolicy) :
    Machine (Book Alert Endpoint) (Service Alert Endpoint rules) where
  step book
    | .wait seconds => some { book with now := book.now + seconds }
    | .triage rule call =>
        match evaluateCall rule.val (book.ledger rule.val) call with
        | .ok d => if d.decision ≠ .skip then some (book.reserve call.alert call.endpoint) else none
        | .error _ => none
    | .finish index =>
        some { book with
          bookings := book.bookings.mapIdx fun i b =>
            if i = index then { b with active := false } else b }

variable {rules : List AutoTriagePolicy} {book next : Book Alert Endpoint}

/-- A call that is served leaves its alert and endpoint within the limits of its own rule. -/
theorem served_of_step {rule : {p // p ∈ rules}} {call : Call Alert Endpoint}
    (h : (serving rules).step book (.triage rule call) = some next) :
    next = book.reserve call.alert call.endpoint ∧
      Within rule.val.budget (usage (next.ledger rule.val) call.alert call.endpoint) := by
  simp only [serving] at h
  split at h
  · rename_i d heval
    obtain ⟨hskip, hnext⟩ := Option.ite_none_right_eq_some.mp h
    obtain rfl := Option.some.inj hnext
    rw [Book.ledger_reserve]
    exact ⟨rfl, within_reserve_of_ne_skip heval hskip⟩
  · simp at h

/-! ## Spans -/

/-- What a booking weighs in the span of the given number of seconds up to a moment. -/
def spanWeight (seconds : ℕ) (d : Dimension Alert Endpoint × ℕ) (b : Booking Alert Endpoint) : ℕ :=
  weight d.1 (b.during seconds d.2)

/-- Limits on every span of the given number of seconds. -/
def spans (seconds : ℕ) (bound : Dimension Alert Endpoint → ℕ) :
    Quota (Dimension Alert Endpoint × ℕ) (Booking Alert Endpoint) where
  weight := spanWeight seconds
  limit d := bound d.1

theorem load_during (seconds last : ℕ) (d : Dimension Alert Endpoint) :
    Quota.load weight d (book.during seconds last) =
      Quota.load (spanWeight seconds) (d, last) book.bookings := by
  simp only [Quota.load, Book.during, List.map_map]
  rfl

/-- A dimension counts only what is in the span, or the same in all spans. -/
theorem inSpan_or_untimed (d : Dimension Alert Endpoint) :
    (∀ (b : Booking Alert Endpoint) seconds last,
      0 < weight d (b.during seconds last) → InSpan seconds last b.moment) ∨
    ∀ (b : Booking Alert Endpoint) seconds last width close,
      weight d (b.during seconds last) = weight d (b.during width close) := by
  cases d with
  | windowActions e =>
      left
      intro b seconds last hpos
      exact of_decide_eq_true (ite_ne_right_iff.mp hpos.ne').1.2
  | windowBytes e =>
      left
      intro b seconds last hpos
      exact of_decide_eq_true (ite_ne_right_iff.mp hpos.ne').1.2
  | _ => exact .inr fun _ _ _ _ _ => rfl

/-- A booking weighs no more in a span than in another that counts it as well. -/
theorem weight_during_le {b : Booking Alert Endpoint} {seconds last width close : ℕ}
    (h : InSpan seconds last b.moment → InSpan width close b.moment)
    (d : Dimension Alert Endpoint) :
    weight d (b.during seconds last) ≤ weight d (b.during width close) := by
  by_cases hspan : InSpan seconds last b.moment
  · simp only [Booking.during, hspan, h hspan]
    exact le_rfl
  · rcases inSpan_or_untimed d with htimed | huntimed
    · have hzero : weight d (b.during seconds last) = 0 :=
        Nat.eq_zero_of_not_pos fun hpos => hspan (htimed b seconds last hpos)
      rw [hzero]
      exact Nat.zero_le _
    · exact (huntimed b seconds last width close).le

/-- A booking that finishes, or not, weighs no more than before. -/
theorem weight_finish_during_le (b : Booking Alert Endpoint) (finished : Prop)
    [Decidable finished] (seconds last : ℕ) (d : Dimension Alert Endpoint) :
    weight d ((if finished then { b with active := false } else b).during seconds last) ≤
      weight d (b.during seconds last) := by
  split_ifs
  · exact weight_finish_le d (b.during seconds last)
  · exact le_rfl

/-! ## One step -/

/-- What the caller keeps: nothing is from the future, and no span is loaded beyond its bound. -/
structure Kept (seconds : ℕ) (bound : Dimension Alert Endpoint → ℕ)
    (book : Book Alert Endpoint) : Prop where
  past : ∀ b ∈ book.bookings, b.moment ≤ book.now
  within : (spans seconds bound).Within book.bookings

variable {seconds : ℕ} {bound : Dimension Alert Endpoint → ℕ}

/-- A reservation that fits in the window of its rule fits in every shorter span. -/
theorem Kept.reserve (h : Kept seconds bound book) {rule : AutoTriagePolicy}
    (hseconds : seconds ≤ rule.budget.endpointWindowSeconds)
    (hbound : ∀ d, limit rule.budget d ≤ bound d) {alert : Alert} {endpoint : Endpoint}
    (hwithin : Within rule.budget
      (usage ((book.reserve alert endpoint).ledger rule) alert endpoint)) :
    Kept seconds bound (book.reserve alert endpoint) := by
  have hpast : ∀ b ∈ (book.reserve alert endpoint).bookings, b.moment ≤ book.now := by
    intro b hb
    rcases List.mem_append.mp hb with hold | hnew
    · exact h.past b hold
    · rw [List.mem_singleton.mp hnew]
  refine ⟨hpast, h.within.step (.add fun d hpos => ?_)⟩
  obtain ⟨d, last⟩ := d
  -- what counts in the span counts in the rule's window, as the span has not ended yet
  have hrecent : ∀ b ∈ (book.reserve alert endpoint).bookings,
      weight d (b.during seconds last) ≤
        weight d (b.during rule.budget.endpointWindowSeconds book.now) := by
    intro b hb
    rcases inSpan_or_untimed d with htimed | huntimed
    · have hspan : InSpan seconds last book.now := htimed _ _ _ hpos
      exact weight_during_le (fun hin => hin.recent hseconds (hpast b hb) hspan.1) d
    · exact (huntimed _ _ _ _ _).le
  have hnew : 0 < weight d { alert, endpoint, inWindow := true, active := true } := by
    rw [← Book.during_now rule book.now]
    exact hpos.trans_le (hrecent _ (List.mem_append_right _ (List.mem_singleton.mpr rfl)))
  calc Quota.load (spanWeight seconds) (d, last)
        (book.bookings ++ [{ alert, endpoint, moment := book.now, active := true }])
      ≤ Quota.load weight d ((book.reserve alert endpoint).ledger rule) := by
        rw [Book.ledger, load_during]
        exact Quota.load_le_load hrecent
    _ ≤ limit rule.budget d := by
        rw [Book.ledger_reserve] at hwithin ⊢
        exact load_reserve_le hwithin d hnew
    _ ≤ bound d := hbound d

/-- Every step of the caller keeps the bounds of a span that fits every window. -/
theorem Kept.step (h : Kept seconds bound book) (hseconds : FitsWindows rules seconds)
    (hbound : ∀ p ∈ rules, ∀ d, limit p.budget d ≤ bound d) {service : Service Alert Endpoint rules}
    (hstep : (serving rules).step book service = some next) : Kept seconds bound next := by
  cases service with
  | wait elapsed =>
      obtain rfl := Option.some.inj hstep
      exact ⟨fun b hb => (h.past b hb).trans (Nat.le_add_right _ _), h.within⟩
  | triage rule call =>
      obtain ⟨rfl, hwithin⟩ := served_of_step hstep
      exact h.reserve (hseconds rule.val rule.property) (hbound rule.val rule.property) hwithin
  | finish index =>
      obtain rfl := Option.some.inj hstep
      constructor
      · intro b hb
        obtain ⟨i, hi, rfl⟩ := List.mem_mapIdx.mp hb
        have hpast := h.past _ (List.getElem_mem hi)
        split_ifs
        · exact hpast
        · exact hpast
      · exact h.within.step (.lighten fun d i b => weight_finish_during_le b _ _ _ _)

/-! ## Every run -/

/-- The book of a caller that has not served anything yet. -/
def Book.empty : Book Alert Endpoint where
  now := 0
  bookings := []

theorem kept_run (hseconds : FitsWindows rules seconds)
    (hbound : ∀ p ∈ rules, ∀ d, limit p.budget d ≤ bound d)
    (services : List (Service Alert Endpoint rules)) :
    Kept seconds bound ((serving rules).run .empty services) := by
  refine (serving rules).run_invariant (P := Kept seconds bound) ?_ ?_ services
  · intro book service next h hstep
    exact h.step hseconds hbound hstep
  · exact ⟨fun b hb => absurd hb List.not_mem_nil, Quota.within_nil _⟩

/-- A longer span is loaded no less. -/
theorem load_during_mono {width : ℕ} (hwidth : seconds ≤ width) (last : ℕ)
    (d : Dimension Alert Endpoint) :
    Quota.load weight d (book.during seconds last) ≤
      Quota.load weight d (book.during width last) := by
  rw [load_during, load_during]
  exact Quota.load_le_load fun _ _ => weight_during_le (fun hspan => hspan.mono hwidth) d

/-- A span of several times the length is loaded by its parts. -/
theorem load_during_le_mul (h : Kept seconds bound book) {k : ℕ} (hk : 0 < k) (last : ℕ)
    (d : Dimension Alert Endpoint) :
    Quota.load weight d (book.during (k * seconds) last) ≤ k * bound d := by
  have hparts : ∀ b : Booking Alert Endpoint, ∃ j < k, weight d (b.during (k * seconds) last) ≤
      weight d (b.during seconds (last - j * seconds)) := by
    intro b
    by_cases hspan : InSpan (k * seconds) last b.moment
    · obtain ⟨j, hj, hpart⟩ := hspan.exists_part
      exact ⟨j, hj, weight_during_le (fun _ => hpart) d⟩
    · exact ⟨0, hk, weight_during_le (fun hin => absurd hin hspan) d⟩
  calc Quota.load weight d (book.during (k * seconds) last)
      = Quota.load (spanWeight (k * seconds)) (d, last) book.bookings := load_during _ _ _
    _ ≤ ∑ j ∈ Finset.range k,
          Quota.load (spanWeight seconds) (d, last - j * seconds) book.bookings :=
        Quota.load_le_sum_load (fun j => (d, last - j * seconds)) hparts _
    _ ≤ ∑ _j ∈ Finset.range k, bound d := Finset.sum_le_sum fun j _ => h.within (d, _)
    _ = k * bound d := by rw [Finset.sum_const, Finset.card_range, smul_eq_mul]

/-- What holds of a book that several rules share. -/
structure Shared (rules : List AutoTriagePolicy) (book : Book Alert Endpoint) : Prop where
  /-- in a span that fits every window no dimension is loaded beyond the largest limit of a rule -/
  largest : ∀ seconds, FitsWindows rules seconds → ∀ last d,
    Quota.load weight d (book.during seconds last) ≤ largestLimit rules d
  /-- and in no minute beyond the ceiling -/
  minute : ∀ last d, Quota.load weight d (book.during 60 last) ≤ ceiling d
  /-- the window of a rule is loaded as its parts are, if it is longer than another's -/
  window : ∀ p ∈ rules, ∀ seconds k, FitsWindows rules seconds →
    p.budget.endpointWindowSeconds ≤ k * seconds →
      ∀ d, Quota.load weight d (book.ledger p) ≤ k * largestLimit rules d
  /-- a call that is refused for the budget of its rule has no room under that rule, for its own
  alert and endpoint -/
  refused : ∀ p ∈ rules, ∀ (call : Call Alert Endpoint) (d : TriageDecision),
    evaluateCall p (book.ledger p) call = .ok d → d.reason ∈ budgetReasons →
      ¬ Within p.budget
        (usage (reserve (book.ledger p) call.alert call.endpoint) call.alert call.endpoint)
  /-- and one that is served is held to its own rule, however much the others used -/
  held : ∀ (rule : {p // p ∈ rules}) (call : Call Alert Endpoint) next,
    (serving rules).step book (.triage rule call) = some next →
      Within rule.val.budget (usage (next.ledger rule.val) call.alert call.endpoint)

/-- **The rules share one budget.**  This holds after every run of the calls of any number of
rules, in any order, for any alerts and endpoints, and however time passes between them. -/
theorem run_serving_shared (rules : List AutoTriagePolicy)
    (services : List (Service Alert Endpoint rules)) :
    Shared rules ((serving rules).run .empty services) := by
  have hkept {seconds : ℕ} (hseconds : FitsWindows rules seconds) :=
    kept_run hseconds (fun p hp => limit_le_largestLimit hp) services
  have hlargest : ∀ seconds, FitsWindows rules seconds → ∀ last d,
      Quota.load weight d (((serving rules).run .empty services).during seconds last) ≤
        largestLimit rules d := by
    intro seconds hseconds last d
    rw [load_during]
    exact (hkept hseconds).within (d, last)
  constructor
  · exact hlargest
  · intro last d
    exact (hlargest 60 (fitsWindows_minute rules) last d).trans (largestLimit_le_ceiling rules d)
  · intro p _ seconds k hseconds hk d
    have hwindow := p.budget.endpointWindowSeconds.property.1
    have hpos : 0 < k := by
      rcases Nat.eq_zero_or_pos k with rfl | hpos
      · omega
      · exact hpos
    exact (load_during_mono hk _ d).trans (load_during_le_mul (hkept hseconds) hpos _ d)
  · intro p _ call d heval hreason
    exact not_within_reserve_of_budgetReason heval hreason
  · intro rule call next hstep
    exact (served_of_step hstep).2

/-- Each of two collections has its rule's window to itself, and a rule with a window of twice
the length finds both in it, one more than it lets in. -/
example :
    let rule (seconds : Pydantic.Bounded 60 86400) : AutoTriagePolicy :=
      { defaultPolicy ⟨"rule-1", by decide⟩ ⟨1, by decide⟩ with
        enabled := true
        budget := { CollectionBudget.default with
          endpointWindowSeconds := seconds
          maxActionsPerEndpointWindow := ⟨1, by decide⟩ } }
    let short := rule ⟨60, by decide⟩
    let long := rule ⟨120, by decide⟩
    let call : Call ℕ ℕ :=
      { alert := 1
        endpoint := 1
        action := "COLLECT_NETWORK_CONNECTIONS"
        assetClass := "standard"
        capability :=
          { platform := .linux
            recent := true
            mode := .enforce
            implementedActions := [.collectNetworkConnections]
            allowedActions := [.collectNetworkConnections]
            authenticatedCommandChannel := true
            collectionAcceptanceGate := true
            artifactProtocol := some .signedJsonV2ResumeV1 }
        processIdentityVerified := .bool false
        filePath := .none }
    let services : List (Service ℕ ℕ [short, long]) :=
      [.triage ⟨short, List.mem_cons_self⟩ call, .wait 60,
        .triage ⟨short, List.mem_cons_self⟩ call]
    let book := (serving [short, long]).run .empty services
    (Quota.load weight (.windowActions 1) (book.ledger short),
      Quota.load weight (.windowActions 1) (book.ledger long)) = (1, 2) := by
  decide +kernel

end ResponseEngine.Triage
