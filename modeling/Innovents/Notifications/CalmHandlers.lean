import Innovents.Lib.Upsert
import Innovents.Notifications.OutboxWrites

namespace Innovents.Notifications

open Innovents.Lib Innovents.Payments NotificationPreferenceService QueueService
  NotificationOrchestratorService NotificationFanoutService

/-- A statement that meets no failure; the database gives a new notification a new id. -/
def Calm (env : HandlerEnv) : Prop :=
  env.fault = none ∧ ∀ (t : Table Notification), ∀ n ∈ t.rows, n.id ≠ env.newId t

/-- An id that is longer than the ids in use. -/
def freshId (t : Table Notification) : String :=
  t.rows.foldr (fun n id ↦ n.id ++ id) "n"

theorem freshId_ne (t : Table Notification) : ∀ n ∈ t.rows, n.id ≠ freshId t := by
  have hlength (rows : List Notification) : 0 < (rows.foldr (fun n id ↦ n.id ++ id) "n").length ∧
      ∀ n ∈ rows, n.id.length < (rows.foldr (fun n id ↦ n.id ++ id) "n").length := by
    induction rows with
    | nil => exact ⟨by decide, by simp⟩
    | cons m rows ih =>
      rw [List.foldr_cons, String.length_append]
      refine ⟨by omega, fun n hn ↦ ?_⟩
      rcases List.mem_cons.mp hn with rfl | hn
      · omega
      · have hrest := ih.2 n hn
        omega
  intro n hn heq
  have hlt := (hlength t.rows).2 n hn
  rw [heq] at hlt
  exact absurd hlt (lt_irrefl _)

def calmEnv (now : Time) : HandlerEnv := ⟨now, none, freshId⟩

theorem calm_calmEnv (now : Time) : Calm (calmEnv now) := ⟨rfl, freshId_ne⟩

/-- A notification that is asked for on one channel. -/
abbrev Posting := OrchestrateNotificationParams × NotificationChannel

namespace Posting

def key (x : Posting) : Option String := channelKey x.1 x.2

def Makes (x : Posting) (n : Notification) : Prop := ∃ now id, n = notificationRow x.1 x.2 now id

theorem Makes.key {x : Posting} {n : Notification} (h : x.Makes n) : n.idempotencyKey = x.key := by
  obtain ⟨now, id, rfl⟩ := h
  rfl

end Posting

/-- Whether a posting reaches the table: its user exists and allows the channel. -/
def Platform.wants (s : Platform) (x : Posting) : Bool :=
  allows x.1.userId x.1.type x.2 s && s.users.has x.1.userId

/-- What a handler that meets no failure leaves behind. -/
structure Posted (xs : List Posting) (s s' : Platform) : Prop where
  tells : Tells s s'
  rows : Upserts Notification.idempotencyKey Posting.key Posting.Makes (xs.filter s.wants)
    s.notifications.rows s'.notifications.rows
  jobs : (∀ queueName, queueName ∈ s.openQueues) → ∀ x ∈ xs, s.wants x = true →
    ∃ n ∈ s'.notifications.rows, n.idempotencyKey = x.key ∧ deliveryJob x.2 n.id ∈ s'.jobs

theorem Tells.wants {s s' : Platform} (h : Tells s s') : s'.wants = s.wants := by
  funext x
  rw [h.frame]
  rfl

theorem Tells.openQueues {s s' : Platform} (h : Tells s s') : s'.openQueues = s.openQueues := by
  rw [h.frame]

namespace Posted

variable {xs ys : List Posting} {s s' s'' : Platform}

theorem nil (h : Tells s s') (hrows : s'.notifications.rows = s.notifications.rows) :
    Posted [] s s' := by
  refine ⟨h, ?_, by simp⟩
  rw [hrows]
  exact .nil

theorem append (h : Posted xs s s') (h' : Posted ys s' s'') : Posted (xs ++ ys) s s'' := by
  refine ⟨h.tells.trans h'.tells, ?_, fun hopen x hx hw ↦ ?_⟩
  · have hrows := h'.rows
    rw [h.tells.wants] at hrows
    rw [List.filter_append]
    exact h.rows.append hrows
  · rcases List.mem_append.mp hx with hx | hx
    · obtain ⟨n, hn, hkey, hjob⟩ := h.jobs hopen x hx hw
      exact ⟨n, h'.tells.notifications.subset hn, hkey, h'.tells.jobs.subset hjob⟩
    · refine h'.jobs (fun q ↦ ?_) x hx ?_
      · rw [h.tells.openQueues]
        exact hopen q
      · rw [h.tells.wants]
        exact hw

end Posted

section Orchestrator

variable {params : OrchestrateNotificationParams} {channel : NotificationChannel}
  {s s' : Platform} {k : String}

theorem shouldDeliver_calm {userId : String} {type : NotificationType} {r : Except String Bool}
    (h : (shouldDeliver userId type channel).Ran Calm s r s') :
    r = .ok (allows userId type channel s) ∧ s' = s := by
  unfold shouldDeliver at h
  split_ifs at h with ht
  · rw [Call.pure_eq, Call.ran_returned] at h
    obtain ⟨rfl, rfl⟩ := h
    exact ⟨by simp [allows, ht], rfl⟩
  · obtain ⟨env, henv, rfl, rfl⟩ := Call.ran_ask.mp h
    exact ⟨by simp [allows, ht, henv.1], rfl⟩

theorem createNotification_calm {env : HandlerEnv} (henv : Calm env)
    (hk : channelKey params channel = some k) (huser : s.users.has params.userId = true)
    (hfree : some k ∉ s.notifications.rows.map Notification.idempotencyKey) :
    ∃ t n, createNotification params channel env s = .ok ({ s with notifications := t }, n) ∧
      n = notificationRow params channel env.now (env.newId s.notifications) ∧
      t.rows = s.notifications.rows ++ [n] := by
  have hapart : ∀ a ∈ s.notifications.rows,
      clash a (notificationRow params channel env.now (env.newId s.notifications)) = false := by
    intro a ha
    refine clash_eq_false (henv.2 s.notifications a ha) fun u hu key hka hkb ↦ hfree ?_
    obtain rfl := List.mem_singleton.mp hu
    have hkey : key = k := Option.some.inj (hkb.symm.trans hk)
    exact List.mem_map.mpr ⟨a, ha, hkey ▸ hka⟩
  obtain ⟨t, ht⟩ := Table.create_succeeds hapart
  refine ⟨t, _, ?_, rfl, Table.create_eq_ok.mp ht⟩
  simp only [createNotification, huser, if_true, ht]

/-- The upsert of an existing user finds a row with the key, or makes one. -/
theorem persistNotification_calm {r : Except String Notification}
    (hk : channelKey params channel = some k)
    (h : (persistNotification params channel).Ran Calm s r s') :
    (∃ n ∈ s'.notifications.rows, r = .ok n ∧ n.idempotencyKey = some k ∧
      Upserts Notification.idempotencyKey Posting.key Posting.Makes
        (if s.users.has params.userId then [(params, channel)] else [])
        s.notifications.rows s'.notifications.rows) ∨
    (s.users.has params.userId = false ∧ s' = s ∧ ∃ e, r = .error e) := by
  obtain ⟨env, henv, hr, hs⟩ := Call.ran_perform.mp h
  simp only [henv.1, Option.elim_none, hk] at hr hs
  have hkey : Posting.key (params, channel) = some k := hk
  cases hfind : s.notifications.find? fun n ↦ n.idempotencyKey == some k with
  | some n =>
    simp only [hfind] at hr hs
    obtain ⟨hn, hnk⟩ := Table.find?_mem hfind
    have hnk : n.idempotencyKey = some k := by simpa using hnk
    obtain rfl : s' = s := hs
    refine .inl ⟨n, hn, hr, hnk, ?_⟩
    split_ifs
    · exact .found (by rw [hkey]; exact List.mem_map.mpr ⟨n, hn, hnk⟩) .nil
    · exact .nil
  | none =>
    simp only [hfind] at hr hs
    have hfree : some k ∉ s.notifications.rows.map Notification.idempotencyKey := by
      intro hmem
      obtain ⟨n, hn, hnk⟩ := List.mem_map.mp hmem
      have hne := Table.find?_eq_none.mp hfind n hn
      simp [hnk] at hne
    cases huser : s.users.has params.userId with
    | true =>
      obtain ⟨t, n, hc, hn, hrows⟩ := createNotification_calm henv hk huser hfree
      rw [hc] at hr hs
      obtain rfl : s' = { s with notifications := t } := hs
      have hmakes : Posting.Makes (params, channel) n := ⟨_, _, hn⟩
      refine .inl ⟨n, by simp [hrows], hr, hmakes.key.trans hkey, ?_⟩
      rw [if_pos rfl, hrows]
      exact .made (hkey ▸ hfree) hmakes .nil
    | false =>
      simp only [createNotification, huser] at hr hs
      exact .inr ⟨rfl, hs, _, hr⟩

theorem existingNotification_calm {r : Except String (Option Notification)}
    (h : (existingNotification params channel).Ran Calm s r s') : (∃ o, r = .ok o) ∧ s' = s := by
  unfold existingNotification at h
  split at h
  · obtain ⟨env, henv, rfl, rfl⟩ := Call.ran_ask.mp h
    exact ⟨⟨_, by simp only [henv.1, Option.elim_none]; rfl⟩, rfl⟩
  · rw [Call.pure_eq, Call.ran_returned] at h
    exact ⟨⟨_, h.1⟩, h.2⟩

theorem addJob_calm {queueName : QueueName} {job : Job} {r : Except String Unit}
    (h : (addJob queueName job).Ran Calm s r s') :
    r = .ok () ∧ s'.notifications = s.notifications ∧
      (queueName ∈ s.openQueues → (queueName, job) ∈ s'.jobs) := by
  obtain ⟨env, henv, rfl, rfl⟩ := Call.ran_perform.mp h
  simp only [henv.1, Option.elim_none]
  split_ifs with hopen
  · exact ⟨rfl, rfl, fun _ ↦ by simp [Call.written]⟩
  · exact ⟨rfl, rfl, fun ho ↦ absurd ho hopen⟩

theorem onlyTells_ran {α : Type} {c : Handler α} {ok : HandlerEnv → Prop} {r : Except String α}
    (hc : OnlyTells c) (h : c.Ran ok s r s') : Tells s s' :=
  Call.Each.ran (J := Tells s) hc (fun _ _ _ hs ht ↦ hs.trans ht) h (Tells.refl s)

theorem orchestrateChannel_calm {r : Except String (Option Notification)}
    (hk : channelKey params channel = some k)
    (h : (orchestrateChannel params channel).Ran Calm s r s') :
    (∃ o, r = .ok o) ∧ Posted [(params, channel)] s s' := by
  have htells := onlyTells_ran (onlyTells_orchestrateChannel params channel) h
  have hkey : Posting.key (params, channel) = some k := hk
  simp only [orchestrateChannel, Call.bind_eq, Call.ran_bind] at h
  rcases h with ⟨x, hx, _⟩ | ⟨allowed, s₁, ha, h⟩
  · obtain ⟨hx, _⟩ := shouldDeliver_calm hx
    cases hx
  obtain ⟨ha, rfl⟩ := shouldDeliver_calm ha
  rw [Except.ok.injEq] at ha
  subst ha
  have hwants : s₁.wants (params, channel) =
      (allows params.userId params.type channel s₁ && s₁.users.has params.userId) := rfl
  split_ifs at h with hallow
  · rw [hallow, Bool.true_and] at hwants
    simp only [Call.ran_bind, Call.ran_attempt] at h
    rcases h with ⟨x, ⟨_, _, hx⟩, _⟩ | ⟨persisted, s₂, ⟨r₂, hp, he⟩, h⟩
    · cases hx
    rw [Except.ok.injEq] at he
    subst he
    rcases persistNotification_calm hk hp with ⟨n, hn, rfl, hnk, hups⟩ | ⟨huser, rfl, e, rfl⟩
    · simp only [Call.ran_bind] at h
      rcases h with ⟨x, hx, _⟩ | ⟨u, s₃, hj, h⟩
      · obtain ⟨hx, _⟩ := addJob_calm hx
        cases hx
      obtain ⟨_, hsame, hjob⟩ := addJob_calm hj
      rw [Call.pure_eq, Call.ran_returned] at h
      obtain ⟨rfl, rfl⟩ := h
      refine ⟨⟨_, rfl⟩, htells, ?_, fun hopen x hx _ ↦ ?_⟩
      · rw [hsame, List.filter_singleton, hwants, Bool.cond_eq_ite]
        exact hups
      · obtain rfl := List.mem_singleton.mp hx
        have hp' := onlyTells_ran (onlyTells_persistNotification params channel) hp
        refine ⟨n, hsame ▸ hn, hnk.trans hkey.symm, hjob ?_⟩
        rw [hp'.openQueues]
        exact hopen _
    · obtain ⟨ho, rfl⟩ := existingNotification_calm h
      have hnone : s'.wants (params, channel) = false := hwants.trans huser
      refine ⟨ho, htells, ?_, fun _ x hx hw ↦ ?_⟩
      · rw [List.filter_singleton, hnone]
        exact .nil
      · rw [List.mem_singleton.mp hx, hnone] at hw
        cases hw
  · rw [Call.pure_eq, Call.ran_returned] at h
    obtain ⟨rfl, rfl⟩ := h
    have hnone : s'.wants (params, channel) = false := by
      simp [hwants, Bool.eq_false_iff.mpr hallow]
    refine ⟨⟨_, rfl⟩, htells, ?_, fun _ x hx hw ↦ ?_⟩
    · rw [List.filter_singleton, hnone]
      exact .nil
    · rw [List.mem_singleton.mp hx, hnone] at hw
      cases hw

/-- The postings of one call of the orchestrator. -/
def postings (params : OrchestrateNotificationParams) : List Posting :=
  (params.channels.getD [.inApp, .push, .email]).map (params, ·)

theorem orchestrateChannels_calm {channels : List NotificationChannel}
    {r : Except String (List Notification)} (hk : ∀ c, (channelKey params c).isSome = true)
    (h : (orchestrateChannels params channels).Ran Calm s r s') :
    (∃ o, r = .ok o) ∧ Posted (channels.map (params, ·)) s s' := by
  induction channels generalizing s s' r with
  | nil =>
    rw [orchestrateChannels, Call.pure_eq, Call.ran_returned] at h
    obtain ⟨rfl, rfl⟩ := h
    exact ⟨⟨_, rfl⟩, .nil (.refl _) rfl⟩
  | cons channel channels ih =>
    obtain ⟨k, hk'⟩ := Option.isSome_iff_exists.mp (hk channel)
    simp only [orchestrateChannels, Call.bind_eq, Call.ran_bind] at h
    rcases h with ⟨x, hx, _⟩ | ⟨created, s₁, hc, h⟩
    · obtain ⟨⟨_, hx⟩, _⟩ := orchestrateChannel_calm hk' hx
      cases hx
    obtain ⟨_, hposted⟩ := orchestrateChannel_calm hk' hc
    rcases h with ⟨x, hx, _⟩ | ⟨others, s₂, ho, h⟩
    · obtain ⟨⟨_, hx⟩, _⟩ := ih hx
      cases hx
    obtain ⟨_, hrest⟩ := ih ho
    rw [Call.pure_eq, Call.ran_returned] at h
    obtain ⟨rfl, rfl⟩ := h
    exact ⟨⟨_, rfl⟩, hposted.append hrest⟩

theorem orchestrate_calm {r : Except String (List Notification)}
    (hk : ∀ c, (channelKey params c).isSome = true) (h : (orchestrate params).Ran Calm s r s') :
    (∃ o, r = .ok o) ∧ Posted (postings params) s s' := orchestrateChannels_calm hk h

theorem fanoutToUsers_calm {notificationFactory : String → OrchestrateNotificationParams}
    {userIds : List String} {r : Except String ℕ}
    (hk : ∀ u c, (channelKey (notificationFactory u) c).isSome = true)
    (h : (fanoutToUsers notificationFactory userIds).Ran Calm s r s') :
    (∃ n, r = .ok n) ∧
      Posted (userIds.flatMap fun u ↦ postings (notificationFactory u)) s s' := by
  induction userIds generalizing s s' r with
  | nil =>
    rw [fanoutToUsers, Call.pure_eq, Call.ran_returned] at h
    obtain ⟨rfl, rfl⟩ := h
    exact ⟨⟨_, rfl⟩, .nil (.refl _) rfl⟩
  | cons userId userIds ih =>
    simp only [fanoutToUsers, Call.bind_eq, Call.ran_bind, Call.ran_attempt] at h
    rcases h with ⟨x, ⟨_, _, hx⟩, _⟩ | ⟨outcome, s₁, ⟨r₁, ho, _⟩, h⟩
    · cases hx
    obtain ⟨_, hposted⟩ := orchestrate_calm (hk userId) ho
    rcases h with ⟨x, hx, _⟩ | ⟨count, s₂, hc, h⟩
    · obtain ⟨⟨_, hx⟩, _⟩ := ih hx
      cases hx
    obtain ⟨_, hrest⟩ := ih hc
    have hdone : (∃ n, r = .ok n) ∧ s' = s₂ := by
      cases outcome with
      | ok _ =>
        rw [Call.pure_eq, Call.ran_returned] at h
        exact ⟨⟨_, h.1⟩, h.2⟩
      | error _ =>
        rw [Call.pure_eq, Call.ran_returned] at h
        exact ⟨⟨_, h.1⟩, h.2⟩
    obtain ⟨hr, rfl⟩ := hdone
    exact ⟨hr, hposted.append hrest⟩

end Orchestrator

end Innovents.Notifications
