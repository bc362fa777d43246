import TransitBpp.Confirmations

/-!
# A ride that a pass settles

The claim on a ride's payments is read, the credentials of the pass it names are looked up, and the
filters of `assertPassSettlement` narrow one and the same credential. The order it names was stored by an
earlier confirm, because credentials are only ever kept for an order that was.
-/

namespace TransitBpp.Trv11

/-! ## The check -/

variable {hmac : Hmac}

/-- A presented code is the one of the current step or of one beside it. -/
theorem verifyTotpCode_true {secretBase32 presented : String} {atMilliseconds : ℤ}
    {parameters : TotpParameters}
    (h : verifyTotpCode hmac secretBase32 presented atMilliseconds parameters = .ok true) :
    ∃ step ∈ [(-1 : ℤ), 0, 1], totpCode hmac secretBase32
      (atMilliseconds + step * parameters.periodSeconds * 1000) parameters = .ok presented := by
  have hsteps : ∀ {steps : List ℤ},
      matchesStep hmac secretBase32 presented atMilliseconds parameters steps = .ok true →
      ∃ step ∈ steps, totpCode hmac secretBase32
        (atMilliseconds + step * parameters.periodSeconds * 1000) parameters = .ok presented := by
    intro steps h
    induction steps with
    | nil => cases h
    | cons step steps ih =>
      obtain ⟨candidate, hcandidate, h⟩ := Except.bind_ok.mp h
      obtain ⟨matched, hmatched, h⟩ := Except.bind_ok.mp h
      rcases Bool.or_eq_true_iff.mp (Except.ok.inj h) with hsame | rfl
      · refine ⟨step, List.mem_cons_self, ?_⟩
        rw [hcandidate, of_decide_eq_true hsame]
      · obtain ⟨step', hmem, hcode⟩ := ih hmatched
        exact ⟨step', List.mem_cons_of_mem _ hmem, hcode⟩
  unfold verifyTotpCode at h
  split at h
  · cases h
  · exact hsteps h

theorem findVerified_some {passCode : String} {atMilliseconds : ℤ}
    {credentials : List PassCredentialRecord} {verified : PassCredentialRecord}
    (h : findVerified hmac passCode atMilliseconds credentials = .ok (some verified)) :
    verified ∈ credentials ∧ verifyTotpCode hmac verified.secretBase32 passCode atMilliseconds
      verified.parameters = .ok true := by
  induction credentials with
  | nil => cases h
  | cons credential rest ih =>
    obtain ⟨matched, hmatched, h⟩ := Except.bind_ok.mp h
    cases matched with
    | true =>
      obtain rfl := Option.some.inj (Except.ok.inj h)
      exact ⟨List.mem_cons_self, hmatched⟩
    | false =>
      obtain ⟨hmem, hverified⟩ := ih h
      exact ⟨List.mem_cons_of_mem _ hmem, hverified⟩

/-- What it takes for one credential to settle a ride at an instant with a code. -/
structure Settles (hmac : Hmac) (credential : PassCredentialRecord) (tiers : List ServiceTier)
    (atMilliseconds : ℤ) (passCode : String) : Prop where
  /-- its scope covers every offer -/
  covers : ∀ tier ∈ tiers, passCovers credential.scope tier = true
  /-- the instant is in its window -/
  started : credential.validFromMs ≤ atMilliseconds
  /-- whose end is exclusive -/
  notEnded : atMilliseconds < credential.validToMs
  /-- the code is its own, for the current time step or one beside it -/
  code : ∃ step ∈ [(-1 : ℤ), 0, 1], totpCode hmac credential.secretBase32
    (atMilliseconds + step * credential.parameters.periodSeconds * 1000) credential.parameters =
      .ok passCode

/-- The filters narrow one and the same credential. -/
theorem assertPassSettlement_ok {claim : PassSettlementClaim} {credentials : List PassCredentialRecord}
    {tiers : List ServiceTier} {atMilliseconds : ℤ} {verified : PassCredentialRecord}
    (h : assertPassSettlement hmac claim credentials tiers atMilliseconds = .ok verified) :
    verified ∈ credentials ∧ Settles hmac verified tiers atMilliseconds claim.passCode := by
  unfold assertPassSettlement at h
  simp only at h
  split at h
  · cases h
  · split at h
    · cases h
    · split at h
      · cases h
      · obtain ⟨found, hfound, h⟩ := Except.bind_ok.mp h
        split at h
        · rename_i credential
          obtain rfl := Except.ok.inj h
          obtain ⟨hmem, hverified⟩ := findVerified_some hfound
          obtain ⟨hcovering, hwindow⟩ := List.mem_filter.mp hmem
          obtain ⟨hmem, hcovers⟩ := List.mem_filter.mp hcovering
          obtain ⟨hfrom, hto⟩ := Bool.and_eq_true_iff.mp hwindow
          exact ⟨hmem, List.all_eq_true.mp hcovers, of_decide_eq_true hfrom, of_decide_eq_true hto,
            verifyTotpCode_true hverified⟩
        · cases h

/-- A `KSRTC_SARIGE` pass covers nothing, so it settles no ride. -/
theorem Settles.not_sarige {credential : PassCredentialRecord} {tiers : List ServiceTier}
    {atMilliseconds : ℤ} {passCode : String} (h : Settles hmac credential tiers atMilliseconds passCode)
    (htiers : tiers ≠ []) : credential.scope ≠ .ksrtcSarige := by
  intro hscope
  obtain ⟨tier, hmem⟩ := List.exists_mem_of_ne_nil tiers htiers
  have hcovers := h.covers tier hmem
  rw [hscope] at hcovers
  cases hcovers

/-! ## What a draft needs -/

/-- An order of single journeys. -/
def ConfirmRequest.IsRide (request : ConfirmRequest) : Prop :=
  ∀ item ∈ request.items, isPassItemId item.id = false

/-- An order of passes. -/
def ConfirmRequest.IsPass (request : ConfirmRequest) : Prop :=
  ∀ item ∈ request.items, isPassItemId item.id = true

/-- The tiers of the services that an order is for. -/
def tiersOf (service : Service) (base : BaseOrder) : List ServiceTier :=
  base.offers.map fun offer => serviceTierForOffer offer service.profile

section

variable {service : Service} {operator : PassOperatorKey} {store : Store} {request : ConfirmRequest}
  {draws : Draws}

/-- A refused check ends an order, so what follows was reached past it. -/
theorem baseOrder_ok {base : BaseOrder} (h : baseOrder service operator store request draws = .ok base) :
    (request.items.map SelectedItem.id).any isPassItemId = false ∧
        ticketBaseOrder service operator store request draws = .ok base ∨
      (request.items.map SelectedItem.id).all isPassItemId = true ∧
        passBaseOrder service operator request draws = .ok base := by
  obtain ⟨-, -, h⟩ := Except.bind_ok.mp h
  split at h
  · cases h
  · simp only at h
    split at h
    · cases h
    · obtain ⟨-, -, h⟩ := Except.bind_ok.mp h
      split at h
      · rename_i hany
        exact .inl ⟨by simpa using hany, h⟩
      · split at h
        · cases h
        · rename_i hall
          exact .inr ⟨by simpa using hall, h⟩

theorem ticketBaseOrder_ok {base : BaseOrder}
    (h : ticketBaseOrder service operator store request draws = .ok base) :
    base.passCredentials = [] ∧ base.offers.length = request.items.length := by
  obtain ⟨-, -, h⟩ := Except.bind_ok.mp h
  obtain ⟨offers, hoffers, h⟩ := Except.bind_ok.mp h
  obtain ⟨lines, -, h⟩ := Except.bind_ok.mp h
  obtain ⟨provider, -, h⟩ := Except.bind_ok.mp h
  obtain ⟨quote, -, h⟩ := Except.bind_ok.mp h
  obtain rfl := Except.ok.inj h
  refine ⟨rfl, ?_⟩
  unfold Store.selectedOffers at hoffers
  split at hoffers
  · cases hoffers
  · rw [← (Except.mapM_ok.mp hoffers).length_eq, List.length_map]

/-- A ride has an offer, since something is selected. -/
theorem baseOrder_ride {base : BaseOrder}
    (h : baseOrder service operator store request draws = .ok base) (hride : request.IsRide) :
    base.offers ≠ [] := by
  rcases baseOrder_ok h with ⟨-, h⟩ | ⟨hall, -⟩
  · have hlength := (ticketBaseOrder_ok h).2
    rw [← List.length_pos_iff, hlength]
    exact List.length_pos_iff.mpr request.selected
  · obtain ⟨item, hmem⟩ := List.exists_mem_of_ne_nil _ request.selected
    have hpass := List.all_eq_true.mp hall item.id (List.mem_map_of_mem hmem)
    rw [hride item hmem] at hpass
    cases hpass

/-- Only an order of passes asks for credentials. -/
theorem baseOrder_pass {base : BaseOrder}
    (h : baseOrder service operator store request draws = .ok base) (hpass : base.passCredentials ≠ []) :
    request.IsPass := by
  rcases baseOrder_ok h with ⟨-, h⟩ | ⟨hall, -⟩
  · exact absurd (ticketBaseOrder_ok h).1 hpass
  · exact fun item hmem => List.all_eq_true.mp hall item.id (List.mem_map_of_mem hmem)

/-- The order that a claim names has a credential that settles the ride. -/
theorem checkPassSettlement_ok {base : BaseOrder} {issuedAt : ℤ}
    (h : checkPassSettlement hmac service operator store request base issuedAt = .ok ())
    (hgroups : settlementGroups request.payments ≠ []) :
    ∃ claim, passSettlementClaim request.payments = .ok (some claim) ∧
      ∃ credential ∈ store.findPassCredentials operator request.identity claim.passOrderId,
        Settles hmac credential (tiersOf service base) issuedAt claim.passCode := by
  obtain ⟨found, hclaim, h⟩ := Except.bind_ok.mp h
  cases found with
  | none =>
    unfold passSettlementClaim at hclaim
    split at hclaim
    · exact absurd ‹_› hgroups
    · split at hclaim <;> cases hclaim
    · cases hclaim
  | some claim =>
    refine ⟨claim, hclaim, ?_⟩
    simp only at h
    split at h
    · cases h
    · obtain ⟨verified, hverified, -⟩ := Except.bind_ok.mp h
      obtain ⟨hmem, hsettles⟩ := assertPassSettlement_ok hverified
      exact ⟨verified, hmem, hsettles⟩

theorem draft_ok {issue : Draft} (h : draft hmac service operator store request draws = .ok issue) :
    baseOrder service operator store request draws = .ok issue.base ∧
      checkPassSettlement hmac service operator store request issue.base draws.issuedAt = .ok () := by
  obtain ⟨base, hbase, h⟩ := Except.bind_ok.mp h
  obtain ⟨⟨⟩, hcheck, h⟩ := Except.bind_ok.mp h
  obtain ⟨drawn, -, h⟩ := Except.bind_ok.mp h
  obtain ⟨orderId, -, h⟩ := Except.bind_ok.mp h
  obtain rfl := Except.ok.inj h
  exact ⟨hbase, hcheck⟩

/-- Where a draft asks for no credential, none is minted. -/
theorem issued_credentials {issue : Draft} {encoder : String → String} {done : Issued}
    (h : issued operator request draws issue encoder = .ok done)
    (hnone : issue.base.passCredentials = []) : done.credentials = [] := by
  obtain ⟨fulfillments, hmap, h⟩ := Except.bind_ok.mp h
  obtain ⟨createdAt, -, h⟩ := Except.bind_ok.mp h
  obtain rfl := Except.ok.inj h
  have hsnd : ∀ fulfillment ∈ fulfillments, fulfillment.2 = [] := by
    intro fulfillment hmem
    obtain ⟨source, -, hsource⟩ := exists_of_mem_mapM hmap hmem
    unfold confirmFulfillment at hsource
    simp only [hnone, List.reverse_nil, List.find?_nil] at hsource
    split at hsource
    · obtain rfl := Except.ok.inj hsource
      rfl
    · obtain ⟨authorization, -, hsource⟩ := Except.bind_ok.mp hsource
      obtain rfl := Except.ok.inj hsource
      rfl
  simpa using fun credentials fulfillment hmem => hsnd (fulfillment, credentials) hmem

end

/-! ## What is promised of rides -/

variable (hmac) (services : PassOperatorKey → Service)

/-- A pass that the same operator issued to the same buyer app under the id that a claim names, one
credential of which settles the ride. -/
structure Confirmation.Backs (p : Confirmation) (operator : PassOperatorKey) (request : ConfirmRequest)
    (tiers : List ServiceTier) (issuedAt : ℤ) (claim : PassSettlementClaim) : Prop where
  operator : p.operator = operator
  bapId : p.request.context.bapId = request.context.bapId
  bapUri : p.request.context.bapUri = request.context.bapUri
  pass : p.request.IsPass
  orderId : p.issued.order.id = claim.passOrderId
  credential : ∃ credential ∈ p.issued.credentials,
    Settles hmac credential tiers issuedAt claim.passCode ∧ credential.scope ≠ .ksrtcSarige

/-- A ride whose payments carry a settlement claim has a pass behind it. -/
def Backed (earlier : List Confirmation) (operator : PassOperatorKey) (request : ConfirmRequest)
    (draws : Draws) (issue : Draft) : Prop :=
  request.IsRide → settlementGroups request.payments ≠ [] →
    ∃ claim, passSettlementClaim request.payments = .ok (some claim) ∧ ∃ p ∈ earlier,
      p.Backs hmac operator request (tiersOf (services operator) issue.base) draws.issuedAt claim

/-- What a confirm stored is what the service made of it. -/
def Computed (c : Confirmation) : Prop :=
  (∃ store, draft hmac (services c.operator) c.operator store c.request c.draws = .ok c.draft) ∧
    ∃ encoder, issued c.operator c.request c.draws c.draft encoder = .ok c.issued

/-- Rides are backed by passes. -/
structure RidesBacked (s : State) : Prop where
  /-- a ride with a settlement claim was stored after the pass that settles it -/
  backed : ∀ later c earlier, s.history = later ++ c :: earlier →
    Backed hmac services earlier c.operator c.request c.draws c.draft
  /-- and as the service computed it -/
  computed : ∀ c ∈ s.history, Computed hmac services c
  /-- a confirm that went through by itself stored its own order -/
  own : ∀ (i : ℕ) (t : Task) (order : ConfirmedOrder), s.tasks[i]? = some t →
    t.stage = .settled (.ok order) → ∃ c ∈ s.history, c.operator = t.operator ∧ c.request = t.request ∧
      c.draws = t.draws ∧ c.issued.order = order
  /-- and any other answers with the order that was stored for its transaction -/
  answered : ∀ (i : ℕ) (t : Task) (order : ConfirmedOrder), s.tasks[i]? = some t →
    t.stage = .answered (.ok order) → ∃ c ∈ s.history, c.operator = t.operator ∧
      c.request.identity = t.request.identity ∧ c.issued.order = order

/-! ## The invariant -/

variable {hmac services}

theorem Backed.mono {earlier earlier' : List Confirmation} {operator : PassOperatorKey}
    {request : ConfirmRequest} {draws : Draws} {issue : Draft}
    (h : Backed hmac services earlier operator request draws issue) (hsub : earlier ⊆ earlier') :
    Backed hmac services earlier' operator request draws issue := by
  intro hride hgroups
  obtain ⟨claim, hclaim, p, hmem, hbacks⟩ := h hride hgroups
  exact ⟨claim, hclaim, p, hsub hmem, hbacks⟩

/-- What a move adds to the history, and to the store with it. -/
theorem Does.history {s s' : State} {m : Move} (h : Does hmac services s m s') :
    s'.history = s.history ∧ s.store.SameOrders s'.store ∨
    ∃ (i : ℕ) (t : Task) (issue : Draft) (encoder : String → String) (done : Issued),
      s.tasks[i]? = some t ∧ t.stage = .encoding issue ∧
      issued t.operator t.request t.draws issue encoder = .ok done ∧
      s.store.Issues t.key done s'.store ∧
      s'.history = ⟨t.operator, t.request, t.draws, issue, done⟩ :: s.history := by
  cases h with
  | search store hsame => exact .inl ⟨rfl, hsame⟩
  | refused => exact .inl ⟨rfl, rfl, rfl, rfl⟩
  | found => exact .inl ⟨rfl, rfl, rfl, rfl⟩
  | join => exact .inl ⟨rfl, rfl, rfl, rfl⟩
  | own => exact .inl ⟨rfl, rfl, rfl, rfl⟩
  | fail => exact .inl ⟨rfl, rfl, rfl, rfl⟩
  | conclude => exact .inl ⟨rfl, rfl, rfl, rfl⟩
  | resume => exact .inl ⟨rfl, rfl, rfl, rfl⟩
  | @store i t issue encoder done store ht hstage hissued hissues =>
    exact .inr ⟨i, t, issue, encoder, done, ht, hstage, hissued, hissues, rfl⟩

theorem Does.history_subset {s s' : State} {m : Move} (h : Does hmac services s m s') :
    s.history ⊆ s'.history := by
  rcases h.history with ⟨hsame, -⟩ | ⟨i, t, issue, encoder, done, -, -, -, -, hmore⟩
  · rw [hsame]
    exact fun _ => id
  · rw [hmore]
    exact List.subset_cons_self _ _

/-- A confirm that awaits the encoder did so before, or drafted its order just now. -/
theorem Does.encoding {s s' : State} {m : Move} (h : Does hmac services s m s') {i : ℕ} {t : Task}
    {issue : Draft} (ht : s'.tasks[i]? = some t) (hencoding : t.stage = .encoding issue) :
    s.tasks[i]? = some t ∨
      draft hmac (services t.operator) t.operator s.store t.request t.draws = .ok issue := by
  have hpush : ∀ {t' : Task}, (s.push t').tasks[i]? = some t →
      (t'.stage = .encoding issue →
        draft hmac (services t'.operator) t'.operator s.store t'.request t'.draws = .ok issue) →
      s.tasks[i]? = some t ∨
        draft hmac (services t.operator) t.operator s.store t.request t.draws = .ok issue := by
    intro t' ht hnew
    rcases getElem?_push ht with ht | ⟨-, rfl⟩
    · exact .inl ht
    · exact .inr (hnew hencoding)
  have hput : ∀ {j : ℕ} {d d' : Task}, s.tasks[j]? = some d → (s.put j d').tasks[i]? = some t →
      d'.stage ≠ .encoding issue → s.tasks[i]? = some t := by
    intro j d d' hd ht hstage
    rcases getElem?_put_cases hd ht with ht | ⟨-, rfl⟩
    · exact ht
    · exact absurd hencoding hstage
  cases h with
  | search => exact .inl ht
  | refused failure hstage => exact hpush ht fun h => by cases hstage.symm.trans h
  | found order hstage => exact hpush ht fun h => by cases hstage.symm.trans h
  | join pending hstage => exact hpush ht fun h => by cases hstage.symm.trans h
  | own _ _ hdraft => exact hpush ht (hdraft issue)
  | fail issue failure hd => exact .inl (hput hd ht fun h => by cases h)
  | store hd => exact .inl (hput hd ht fun h => by cases h)
  | conclude outcome confirmations hd => exact .inl (hput hd ht fun h => by cases h)
  | resume outcome hd => exact .inl (hput hd ht fun h => by cases h)

/-- A confirm that went through by itself did so before, or stored its order just now. -/
theorem Does.settled {s s' : State} {m : Move} (h : Does hmac services s m s') {i : ℕ} {t : Task}
    {order : ConfirmedOrder} (ht : s'.tasks[i]? = some t) (hsettled : t.stage = .settled (.ok order)) :
    s.tasks[i]? = some t ∨ ∃ c ∈ s'.history, c.operator = t.operator ∧ c.request = t.request ∧
      c.draws = t.draws ∧ c.issued.order = order := by
  have hpush : ∀ {t' : Task}, (s.push t').tasks[i]? = some t → t'.stage ≠ .settled (.ok order) →
      s.tasks[i]? = some t := by
    intro t' ht hstage
    rcases getElem?_push ht with ht | ⟨-, rfl⟩
    · exact ht
    · exact absurd hsettled hstage
  have hput : ∀ {j : ℕ} {d d' : Task}, s.tasks[j]? = some d → (s.put j d').tasks[i]? = some t →
      d'.stage ≠ .settled (.ok order) → s.tasks[i]? = some t := by
    intro j d d' hd ht hstage
    rcases getElem?_put_cases hd ht with ht | ⟨-, rfl⟩
    · exact ht
    · exact absurd hsettled hstage
  cases h with
  | search => exact .inl ht
  | refused failure hstage => exact .inl (hpush ht fun h => by cases hstage.symm.trans h)
  | found order hstage => exact .inl (hpush ht fun h => by cases hstage.symm.trans h)
  | join pending hstage => exact .inl (hpush ht fun h => by cases hstage.symm.trans h)
  | own _ hfailed =>
    refine .inl (hpush ht fun h => hfailed order ?_)
    rw [Task.outcome, h]
  | fail issue failure hd => exact .inl (hput hd ht fun h => by cases h)
  | conclude outcome confirmations hd => exact .inl (hput hd ht fun h => by cases h)
  | resume outcome hd => exact .inl (hput hd ht fun h => by cases h)
  | store hd =>
    rcases getElem?_put_cases hd ht with ht | ⟨-, rfl⟩
    · exact .inl ht
    · cases hsettled
      exact .inr ⟨_, List.mem_cons_self, rfl, rfl, rfl, rfl⟩

variable (hmac services)

/-- What is stored, traced back to the confirm that stored it. -/
structure Traced (s : State) : Prop where
  orders : ∀ (id : String) (stored : StoredOrder), Js.mapGet s.store.orders id = some stored →
    ∃ c ∈ s.history, c.operator = stored.operator ∧ c.request.identity = stored.identity ∧
      c.issued.order = stored.order
  credentials : ∀ (key : PassKey) (credentials : List PassCredentialRecord),
    Js.mapGet s.store.passCredentials key = some credentials → ∃ p ∈ s.history,
      passKey p.operator p.request.identity p.issued.order.id = key ∧
      p.issued.credentials = credentials ∧ p.request.IsPass
  drafts : ∀ (i : ℕ) (t : Task) (issue : Draft), s.tasks[i]? = some t → t.stage = .encoding issue →
    Backed hmac services s.history t.operator t.request t.draws issue ∧
    ∃ store, draft hmac (services t.operator) t.operator store t.request t.draws = .ok issue
  computed : ∀ c ∈ s.history, Computed hmac services c
  backed : ∀ later c earlier, s.history = later ++ c :: earlier →
    Backed hmac services earlier c.operator c.request c.draws c.draft
  own : ∀ (i : ℕ) (t : Task) (order : ConfirmedOrder), s.tasks[i]? = some t →
    t.stage = .settled (.ok order) → ∃ c ∈ s.history, c.operator = t.operator ∧ c.request = t.request ∧
      c.draws = t.draws ∧ c.issued.order = order

variable {hmac services}

theorem traced_initial : Traced hmac services State.initial :=
  ⟨fun _ stored h => absurd (show none = some stored from h) nofun,
    fun _ credentials h => absurd (show none = some credentials from h) nofun,
    fun _ t _ h => absurd (show none = some t from h) nofun,
    fun _ h => absurd h List.not_mem_nil,
    fun later c earlier h => absurd (congrArg List.length h) (by simp [State.initial]),
    fun _ t _ h => absurd (show none = some t from h) nofun⟩

/-- A ride that was just drafted has its pass among the confirms so far. -/
theorem Traced.backed_of_draft {s : State} (h : Traced hmac services s) {operator : PassOperatorKey}
    {request : ConfirmRequest} {draws : Draws} {issue : Draft}
    (hdraft : draft hmac (services operator) operator s.store request draws = .ok issue) :
    Backed hmac services s.history operator request draws issue := by
  intro hride hgroups
  obtain ⟨hbase, hcheck⟩ := draft_ok hdraft
  obtain ⟨claim, hclaim, credential, hmem, hsettles⟩ := checkPassSettlement_ok hcheck hgroups
  cases hget : Js.mapGet s.store.passCredentials
      (passKey operator request.identity claim.passOrderId) with
  | none =>
    rw [Store.findPassCredentials, hget] at hmem
    cases hmem
  | some credentials =>
    rw [Store.findPassCredentials, hget, Option.getD_some] at hmem
    obtain ⟨p, hp, hkey, rfl, hpass⟩ := h.credentials _ _ hget
    obtain ⟨hoperator, hbapId, hbapUri, horderId⟩ := PassKey.mk.inj hkey
    have htiers : tiersOf (services operator) issue.base ≠ [] := by
      rw [tiersOf, Ne, List.map_eq_nil_iff]
      exact baseOrder_ride hbase hride
    exact ⟨claim, hclaim, p, hp, hoperator, hbapId, hbapUri, hpass, horderId, credential, hmem, hsettles,
      hsettles.not_sarige htiers⟩

theorem Does.traced_orders {s s' : State} {m : Move} (hdoes : Does hmac services s m s')
    (h : Traced hmac services s) (id : String) (stored : StoredOrder)
    (hget : Js.mapGet s'.store.orders id = some stored) :
    ∃ c ∈ s'.history, c.operator = stored.operator ∧ c.request.identity = stored.identity ∧
      c.issued.order = stored.order := by
  rcases hdoes.history with ⟨hsame, horders, -⟩ | ⟨i, t, issue, encoder, done, -, -, -, hissues, hmore⟩
  · rw [hsame]
    exact h.orders id stored (horders ▸ hget)
  · rw [hmore]
    rw [hissues.orders] at hget
    by_cases hid : id = done.order.id
    · rw [hid, Js.mapGet_mapSet_self] at hget
      obtain rfl := Option.some.inj hget
      exact ⟨_, List.mem_cons_self, rfl, rfl, rfl⟩
    · rw [Js.mapGet_mapSet_ne _ _ hid] at hget
      obtain ⟨c, hmem, hc⟩ := h.orders id stored hget
      exact ⟨c, List.mem_cons_of_mem _ hmem, hc⟩

theorem Does.traced_credentials {s s' : State} {m : Move} (hdoes : Does hmac services s m s')
    (h : Traced hmac services s) (key : PassKey) (credentials : List PassCredentialRecord)
    (hget : Js.mapGet s'.store.passCredentials key = some credentials) :
    ∃ p ∈ s'.history, passKey p.operator p.request.identity p.issued.order.id = key ∧
      p.issued.credentials = credentials ∧ p.request.IsPass := by
  rcases hdoes.history with ⟨hsame, -, -, hcredentials⟩ |
    ⟨i, t, issue, encoder, done, ht, hstage, hissued, hissues, hmore⟩
  · rw [hsame]
    exact h.credentials key credentials (hcredentials ▸ hget)
  · rw [hmore]
    have hold : Js.mapGet s.store.passCredentials key = some credentials →
        ∃ p ∈ (⟨t.operator, t.request, t.draws, issue, done⟩ : Confirmation) :: s.history,
          passKey p.operator p.request.identity p.issued.order.id = key ∧
          p.issued.credentials = credentials ∧ p.request.IsPass := by
      intro hget
      obtain ⟨p, hmem, hp⟩ := h.credentials key credentials hget
      exact ⟨p, List.mem_cons_of_mem _ hmem, hp⟩
    rw [hissues.passCredentials] at hget
    split at hget
    · exact hold hget
    · rename_i hminted
      simp only [Task.key] at hget
      by_cases hkey : key = passKey t.operator t.request.identity done.order.id
      · subst hkey
        rw [Js.mapGet_mapSet_self] at hget
        obtain rfl := Option.some.inj hget
        obtain ⟨-, store, hdraft⟩ := h.drafts i t issue ht hstage
        have hasked : issue.base.passCredentials ≠ [] := by
          intro hnone
          rw [issued_credentials hissued hnone] at hminted
          exact hminted rfl
        exact ⟨_, List.mem_cons_self, rfl, rfl, baseOrder_pass (draft_ok hdraft).1 hasked⟩
      · rw [Js.mapGet_mapSet_ne _ _ hkey] at hget
        exact hold hget

theorem Does.traced {s s' : State} {m : Move} (hdoes : Does hmac services s m s')
    (h : Traced hmac services s) : Traced hmac services s' := by
  refine ⟨hdoes.traced_orders h, hdoes.traced_credentials h, ?_, ?_, ?_, ?_⟩
  · intro i t issue ht hstage
    rcases hdoes.encoding ht hstage with ht | hdraft
    · obtain ⟨hbacked, hdraft⟩ := h.drafts i t issue ht hstage
      exact ⟨hbacked.mono hdoes.history_subset, hdraft⟩
    · exact ⟨(h.backed_of_draft hdraft).mono hdoes.history_subset, s.store, hdraft⟩
  · intro c hmem
    rcases hdoes.history with ⟨hsame, -⟩ | ⟨i, t, issue, encoder, done, ht, hstage, hissued, -, hmore⟩
    · exact h.computed c (hsame ▸ hmem)
    · rw [hmore] at hmem
      rcases List.mem_cons.mp hmem with rfl | hmem
      · exact ⟨(h.drafts i t issue ht hstage).2, encoder, hissued⟩
      · exact h.computed c hmem
  · intro later c earlier hsplit
    rcases hdoes.history with ⟨hsame, -⟩ | ⟨i, t, issue, encoder, done, ht, hstage, -, -, hmore⟩
    · exact h.backed later c earlier (hsame ▸ hsplit)
    · rw [hmore] at hsplit
      cases later with
      | nil =>
        obtain ⟨rfl, rfl⟩ := List.cons.inj hsplit
        exact (h.drafts i t issue ht hstage).1
      | cons c' later => exact h.backed later c earlier (List.cons.inj hsplit).2
  · intro i t order ht hstage
    rcases hdoes.settled ht hstage with ht | hdone
    · obtain ⟨c, hmem, hc⟩ := h.own i t order ht hstage
      exact ⟨c, hdoes.history_subset hmem, hc⟩
    · exact hdone

theorem Reachable.traced {s : State} (h : Reachable hmac services s) : Traced hmac services s := by
  induction h with
  | refl => exact traced_initial
  | tail _ hstep ih =>
    obtain ⟨m, hstep⟩ := hstep
    exact (step_does hstep).traced ih

namespace Specimen

/-- A `PASS_SETTLEMENT` tag group. -/
def settlement (orderId code : String) : Js.Json :=
  .obj [("descriptor", .obj [("code", .str "PASS_SETTLEMENT")]),
    ("list", .arr [entry "PASS_ORDER_ID" orderId, entry "PASS_CODE" code])]

/-- A pass is bought, and a ride is settled by it. -/
def passRide : List Move :=
  [.confirm .bmtc (request "t2" "PASS-DAY-AC_BUS" []) (draws "p1"), .encoded 0 (.ok encoder), .conclude 0,
    .search .bmtc (identity "t3") [offer],
    .confirm .bmtc (request "t3" "O1" [settlement "SPECIMEN-ORD-BMTC-P1" "000000"]) (draws "a4"),
    .encoded 1 (.ok encoder), .conclude 1]

/-- A ride is paid for, and then confirmed once more with a claim on a pass that no one issued. -/
def repeated : List Move :=
  [.search .bmtc (identity "t1") [offer], .confirm .bmtc (request "t1" "O1" []) (draws "a1"),
    .encoded 0 (.ok encoder), .conclude 0,
    .confirm .bmtc (request "t1" "O1" [settlement "X" "000000"]) (draws "a2")]

end Specimen

/-- The answer is an order. -/
def Stage.succeeded : Stage → Bool
  | .answered (.ok _) => true
  | _ => false

/-- The order that a settlement claim names. -/
def ConfirmRequest.claimed (request : ConfirmRequest) : Option String :=
  match passSettlementClaim request.payments with
  | .ok (some claim) => some claim.passOrderId
  | _ => none

end TransitBpp.Trv11
