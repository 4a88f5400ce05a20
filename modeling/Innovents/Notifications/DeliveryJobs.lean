import Innovents.Lib.Ownership
import Innovents.Lib.Surroundings
import Innovents.Notifications.Delivery

namespace Innovents.Notifications

open Innovents.Lib Innovents.Payments NotificationDeliveryService NotificationDeliveryProcessor
  NotificationsService

/-- A notification that has been neither delivered nor deleted. -/
def DeliveryWorld.Open (w : DeliveryWorld) (id : String) : Prop :=
  ∃ status, w.status id = some status ∧ status ≠ .delivered ∧ status ≠ .cancelled

/-- What others leave alone while a job works on a notification. -/
def Lasting (id : String) (w w' : DeliveryWorld) : Prop :=
  ∀ status, w.status id = some status → w'.status id = some status

/-- What a job does to the platform once it has found its notification. -/
structure Handles (id label : String) (w w' : DeliveryWorld) : Prop where
  label : label ≠ "notification.findUnique"
  others : ∀ k, k ≠ id → w'.status k = w.status k
  own : w'.status id = w.status id ∨ w.Open id
  handedOver : w'.handedOver = w.handedOver ∨
    w.Open id ∧ ∃ message, w'.handedOver = w.handedOver ++ [⟨id, w.status id, message⟩]
  deleted : w'.deleted = w.deleted

/-- The call works on an open notification, among others that leave it alone. -/
abbrev WorksOn {α : Type} (id : String) (c : Delivery α)
    (post : Except String α → DeliveryWorld → Prop) (w : DeliveryWorld) : Prop :=
  c.wpg (Lasting id) (Handles id) (fun _ _ ↦ True) post w

/-- The notification is still open if the call has failed. -/
def OpenIfFailed {α : Type} (id : String) (r : Except String α) (w : DeliveryWorld) : Prop :=
  (∃ x, r = .error x) → w.Open id

section Deliver

variable {α β : Type} {id name : String} {w w' w'' : DeliveryWorld} {n : Notification}
  {attemptNumber : ℕ} {startedAt : Time}

theorem Lasting.refl (w : DeliveryWorld) : Lasting id w w := fun _ h ↦ h

theorem Lasting.trans (h : Lasting id w w') (h' : Lasting id w' w'') : Lasting id w w'' :=
  fun status hs ↦ h' status (h status hs)

theorem Lasting.open (h : Lasting id w w') (ho : w.Open id) : w'.Open id := by
  obtain ⟨status, hs, hne⟩ := ho
  exact ⟨status, h status hs, hne⟩

theorem handles_same (hname : name ≠ "notification.findUnique") (hstatus : w'.status = w.status)
    (hhanded : w'.handedOver = w.handedOver) (hdeleted : w'.deleted = w.deleted) :
    Handles id name w w' :=
  ⟨hname, fun k _ ↦ by rw [hstatus], .inl (by rw [hstatus]), .inl hhanded, hdeleted⟩

theorem finds_open {f : DeliveryEnv → DeliveryWorld → α} (hname : name ≠ "notification.findUnique")
    (ho : w.Open id) : WorksOn id (finds name f) (fun _ w ↦ w.Open id) w :=
  fun _ hs _ _ ↦ ⟨handles_same hname rfl rfl rfl, hs.open ho⟩

theorem handOver_open {message : Message} {answer : DeliveryEnv → α}
    (hname : name ≠ "notification.findUnique") (ho : w.Open n.id) :
    WorksOn n.id (handOver name n message answer) (fun _ w ↦ w.Open n.id) w := by
  intro w' hs env _
  have ho' := hs.open ho
  exact ⟨⟨hname, fun _ _ ↦ rfl, .inl rfl, .inr ⟨ho', message, rfl⟩, rfl⟩, ho'⟩

/-- A statement that does not write notifications. -/
theorem stores_open {f : DeliveryEnv → DeliveryWorld → Except Refusal DeliveryWorld}
    (hname : name ≠ "notification.findUnique")
    (hf : ∀ env w w', f env w = .ok w' → w'.platform = w.platform ∧
      w'.handedOver = w.handedOver ∧ w'.deleted = w.deleted)
    (ho : w.Open id) : WorksOn id (stores name f) (fun _ w ↦ w.Open id) w := by
  intro w₁ hs env _
  have ho₁ := hs.open ho
  cases hfault : env.fault with
  | some message =>
    simp only [hfault, Call.written]
    exact ⟨handles_same hname rfl rfl rfl, ho₁⟩
  | none =>
    cases hok : f env w₁ with
    | ok w₂ =>
      obtain ⟨hplatform, hhanded, hdeleted⟩ := hf env w₁ w₂ hok
      have hstatus : w₂.status = w₁.status := by
        funext k
        rw [DeliveryWorld.status, hplatform]
        rfl
      simp only [hfault, hok, Call.written]
      refine ⟨handles_same hname hstatus hhanded hdeleted, ?_⟩
      obtain ⟨status, hs₁, hne⟩ := ho₁
      exact ⟨status, by rw [hstatus, hs₁], hne⟩
    | error refusal =>
      cases refusal <;> simp only [hfault, hok, Call.written] <;>
        exact ⟨handles_same hname rfl rfl rfl, ho₁⟩

/-- The last statement of a delivery writes the status. -/
theorem stores_status {f : DeliveryEnv → DeliveryWorld → Except Refusal DeliveryWorld}
    (hname : name ≠ "notification.findUnique")
    (hf : ∀ env w w', f env w = .ok w' → (∀ k, k ≠ id → w'.status k = w.status k) ∧
      w'.handedOver = w.handedOver ∧ w'.deleted = w.deleted)
    (ho : w.Open id) : WorksOn id (stores name f) (OpenIfFailed id) w := by
  intro w₁ hs env _
  have ho₁ := hs.open ho
  cases hfault : env.fault with
  | some message =>
    simp only [hfault, Call.written]
    exact ⟨handles_same hname rfl rfl rfl, fun _ ↦ ho₁⟩
  | none =>
    cases hok : f env w₁ with
    | ok w₂ =>
      obtain ⟨hothers, hhanded, hdeleted⟩ := hf env w₁ w₂ hok
      simp only [hfault, hok, Call.written]
      refine ⟨⟨hname, hothers, .inr ho₁, .inl hhanded, hdeleted⟩, fun hfailed ↦ ?_⟩
      obtain ⟨_, hx⟩ := hfailed
      cases hx
    | error refusal =>
      cases refusal <;> simp only [hfault, hok, Call.written] <;>
        exact ⟨handles_same hname rfl rfl rfl, fun _ ↦ ho₁⟩

theorem update_others {t : Table Notification} {f : Notification → Notification}
    (h : w.platform.notifications.update id f = .ok t) (hid : ∀ n, (f n).id = n.id) (k : String)
    (hk : k ≠ id) : (w.withNotifications t).status k = w.status k := by
  simp only [DeliveryWorld.status, DeliveryWorld.withNotifications, Table.get?_update h hid,
    if_neg hk]

theorem works_bind {c : Delivery α} {f : α → Delivery β}
    (hc : WorksOn id c (fun _ w ↦ w.Open id) w)
    (hf : ∀ a w, w.Open id → WorksOn id (f a) (OpenIfFailed id) w) :
    WorksOn id (c.bind f) (OpenIfFailed id) w := by
  refine Call.wpg_bind (Call.wpg_mono hc fun r w' ho ↦ ?_)
  cases r with
  | ok a => exact hf a w' ho
  | error x => exact fun _ ↦ ho

theorem keeps_open {c : Delivery α} {f : α → Delivery β}
    (hc : WorksOn id c (fun _ w ↦ w.Open id) w)
    (hf : ∀ a w, w.Open id → WorksOn id (f a) (fun _ w ↦ w.Open id) w) :
    WorksOn id (c.bind f) (fun _ w ↦ w.Open id) w := by
  refine Call.wpg_bind (Call.wpg_mono hc fun r w' ho ↦ ?_)
  cases r with
  | ok a => exact hf a w' ho
  | error x => exact ho

theorem works_done {c : Delivery α} {b : β} {post : Except String α → DeliveryWorld → Prop}
    (hc : WorksOn id c post w) : WorksOn id (c.bind fun _ ↦ pure b) (fun _ _ ↦ True) w := by
  refine Call.wpg_bind (Call.wpg_mono hc fun r w' _ ↦ ?_)
  cases r <;> trivial

/-- After the last write there is nothing left to do. -/
theorem works_last {c : Delivery α} {b : β} (hc : WorksOn id c (OpenIfFailed id) w) :
    WorksOn id (c.bind fun _ ↦ pure b) (OpenIfFailed id) w := by
  refine Call.wpg_bind (Call.wpg_mono hc fun r w' ho ↦ ?_)
  cases r with
  | ok a => exact fun ⟨_, hx⟩ ↦ by cases hx
  | error x => exact fun _ ↦ ho ⟨x, rfl⟩

/-- `try { … } catch`: the notification is open where the failure is dealt with. -/
theorem works_attempt {c : Delivery α} {f : Except String α → Delivery β}
    (hc : WorksOn id c (OpenIfFailed id) w)
    (hok : ∀ a w, WorksOn id (f (.ok a)) (fun _ _ ↦ True) w)
    (herror : ∀ x w, w.Open id → WorksOn id (f (.error x)) (fun _ _ ↦ True) w) :
    WorksOn id (c.attempt.bind f) (fun _ _ ↦ True) w := by
  refine Call.wpg_bind (Call.wpg_attempt (Call.wpg_mono hc fun r w' ho ↦ ?_))
  cases r with
  | ok a => exact hok a w'
  | error x => exact herror x w' (ho ⟨x, rfl⟩)

/-- A statement whose failure is only logged. -/
theorem works_ignored {c : Delivery α} (hc : WorksOn id c (fun _ w ↦ w.Open id) w) :
    WorksOn id (c.attempt.bind fun _ ↦ pure ()) (fun _ w ↦ w.Open id) w :=
  Call.wpg_bind (Call.wpg_attempt hc)

theorem createAttempt_open {channel : NotificationChannel} {status : DeliveryAttemptStatus}
    {providerMessageId errorCode errorMessage : Option String} (ho : w.Open id) :
    WorksOn id (createAttempt n channel attemptNumber startedAt status providerMessageId errorCode
      errorMessage) (fun _ w ↦ w.Open id) w := by
  refine stores_open (by decide) (fun env w w' h ↦ ?_) ho
  obtain ⟨t, -, ht⟩ := andThen_eq_ok.mp h
  cases ht
  exact ⟨rfl, rfl, rfl⟩

theorem recordFailedAttempt_open {channel : NotificationChannel} {errorCode errorMessage : String}
    (ho : w.Open id) : WorksOn id (recordFailedAttempt n channel attemptNumber startedAt errorCode
      errorMessage) (fun _ w ↦ w.Open id) w :=
  works_ignored (createAttempt_open ho)

theorem deactivateToken_open {tokenHash : String} (ho : w.Open id) :
    WorksOn id (deactivateToken tokenHash) (fun _ w ↦ w.Open id) w := by
  refine works_ignored (stores_open (by decide) (fun env w w' h ↦ ?_) ho)
  obtain ⟨t, -, ht⟩ := andThen_eq_ok.mp h
  cases ht
  exact ⟨rfl, rfl, rfl⟩

theorem setDelivered_works (ho : w.Open id) : WorksOn id (setDelivered id) (OpenIfFailed id) w := by
  refine stores_status (by decide) (fun env w w' h ↦ ?_) ho
  obtain ⟨t, hupdate, ht⟩ := andThen_eq_ok.mp h
  cases ht
  exact ⟨update_others hupdate fun _ ↦ rfl, rfl, rfl⟩

theorem setFailed_works (ho : w.Open id) : WorksOn id (setFailed id) (OpenIfFailed id) w := by
  refine stores_status (by decide) (fun env w w' h ↦ ?_) ho
  obtain ⟨t, hupdate, ht⟩ := andThen_eq_ok.mp h
  cases ht
  exact ⟨update_others hupdate fun _ ↦ rfl, rfl, rfl⟩

theorem deliverInApp_works (ho : w.Open n.id) :
    WorksOn n.id (deliverInApp n attemptNumber startedAt) (fun _ _ ↦ True) w := by
  refine works_attempt (works_bind (handOver_open (by decide) ho) fun _ w₁ h₁ ↦ ?_)
    (fun _ _ ↦ trivial) fun _ w' ho' ↦ ?_
  · exact works_bind (createAttempt_open h₁) fun _ w₂ h₂ ↦ setDelivered_works h₂
  · exact works_done (recordFailedAttempt_open ho')

theorem pushToDevices_open (devices : List (String × String)) (outcome : PushOutcome)
    (ho : w.Open n.id) : WorksOn n.id (pushToDevices n attemptNumber startedAt devices outcome)
      (fun _ w ↦ w.Open n.id) w := by
  induction devices generalizing outcome w with
  | nil => exact ho
  | cons device devices ih =>
    obtain ⟨token, tokenHash⟩ := device
    refine keeps_open (handOver_open (by decide) ho) fun result w₁ h₁ ↦ ?_
    split_ifs
    · exact keeps_open (createAttempt_open h₁) fun _ w₂ h₂ ↦ ih _ h₂
    · exact keeps_open (deactivateToken_open h₁) fun _ w₂ h₂ ↦
        keeps_open (createAttempt_open h₂) fun _ w₃ h₃ ↦ ih _ h₃
    · exact keeps_open (createAttempt_open h₁) fun _ w₂ h₂ ↦ ih _ h₂

theorem sendPush_works (ho : w.Open n.id) :
    WorksOn n.id (sendPush n attemptNumber startedAt) (OpenIfFailed n.id) w := by
  refine works_bind (finds_open (by decide) ho) fun activeDevices w₁ h₁ ↦ ?_
  split_ifs
  · exact works_bind (createAttempt_open h₁) fun _ w₂ h₂ ↦ works_last (setDelivered_works h₂)
  · refine works_bind (pushToDevices_open activeDevices _ h₁) fun outcome w₂ h₂ ↦ ?_
    split_ifs
    · exact works_last (setDelivered_works h₂)
    · exact works_last (setFailed_works h₂)

theorem deliverPush_works (ho : w.Open n.id) :
    WorksOn n.id (deliverPush n attemptNumber startedAt) (fun _ _ ↦ True) w := by
  refine works_attempt (sendPush_works ho) (fun _ _ ↦ trivial) fun _ w' ho' ↦ ?_
  exact works_done (recordFailedAttempt_open ho')

theorem sendEmail_works (ho : w.Open n.id) :
    WorksOn n.id (sendEmail n attemptNumber startedAt) (OpenIfFailed n.id) w := by
  refine works_bind (finds_open (by decide) ho) fun user w₁ h₁ ↦ ?_
  cases user.filter (·.email ≠ "") with
  | none => exact fun _ ↦ h₁
  | some user =>
    refine works_bind (handOver_open (by decide) h₁) fun sent w₂ h₂ ↦ ?_
    split_ifs
    · exact works_bind (createAttempt_open h₂) fun _ w₃ h₃ ↦ setDelivered_works h₃
    · exact fun _ ↦ h₂

theorem deliverEmail_works (ho : w.Open n.id) :
    WorksOn n.id (deliverEmail n attemptNumber startedAt) (fun _ _ ↦ True) w := by
  refine works_attempt (sendEmail_works ho) (fun _ _ ↦ trivial) fun _ w' ho' ↦ ?_
  refine works_done (works_bind (recordFailedAttempt_open ho') fun _ w₁ h₁ ↦ setFailed_works h₁)

theorem deliver_works (ho : w.Open n.id) :
    WorksOn n.id (deliver n attemptNumber startedAt) (fun _ _ ↦ True) w := by
  unfold deliver
  cases n.channel with
  | inApp => exact deliverInApp_works ho
  | push => exact deliverPush_works ho
  | email => exact deliverEmail_works ho

end Deliver

/-- A delivery job or a deletion, under way. -/
structure DeliveryTask where
  notificationId : String
  deletes : Bool
  call : Delivery Unit

def deliveryTask (id : String) (attemptNumber : Option ℕ) : DeliveryTask :=
  ⟨id, false, processJob id attemptNumber⟩

def deletionTask (userId id : String) : DeliveryTask := ⟨id, true, deleteNotification userId id⟩

/-- What a job that has read its notification, and has not ended, works on. -/
def DeliveryTask.underway (t : DeliveryTask) : List String :=
  if t.deletes then [] else
    match t.call.label? with
    | none | some "notification.findUnique" => []
    | some _ => [t.notificationId]

/-- The rest of the platform neither changes the status of a notification nor deletes one. -/
def Meantime (w w' : DeliveryWorld) : Prop :=
  (∀ id, Lasting id w w') ∧ w'.handedOver = w.handedOver ∧ w'.deleted = w.deleted

/-- Any number of jobs for any notifications, and any number of deletions. -/
def deliveries : Machine DeliveryWorld DeliveryTask DeliveryEnv where
  start t := (∃ id attemptNumber, t = deliveryTask id attemptNumber) ∨
    ∃ userId id, t = deletionTask userId id
  step env w t := (t.call.step env w).map fun q ↦ (q.1, { t with call := q.2 })
  world := Meantime

/-- A job starts on an open notification while no other job is on it, and no notification is
deleted under a job that is on it. -/
def OneAtATime (p : Pool DeliveryWorld DeliveryTask) : Move DeliveryTask DeliveryEnv → Prop
  | .run i _ => ∀ t, p.threads[i]? = some t →
    (t.deletes = false → t.call.label? = some "notification.findUnique" →
      p.shared.status t.notificationId ≠ some .delivered ∧
      p.shared.status t.notificationId ≠ some .cancelled ∧
      ∀ u ∈ p.threads, t.notificationId ∉ u.underway) ∧
    (t.deletes = true → t.call.label? = some "notification.update" →
      ∀ u ∈ p.threads, t.notificationId ∉ u.underway)
  | .spawn _ | .world => True

/-- What a deletion does to the platform. -/
def Removes (id label : String) (w w' : DeliveryWorld) : Prop :=
  w' = w ∨ label = "notification.update" ∧ w'.status id = some .cancelled ∧
    (∀ k, k ≠ id → w'.status k = w.status k) ∧ w'.handedOver = w.handedOver ∧
    w'.deleted = w.deleted ++ [id]

def DeliveryTask.Safe (w : DeliveryWorld) (t : DeliveryTask) : Prop :=
  if t.deletes then t.call.Each (Removes t.notificationId) else
    (∃ attemptNumber, t.call = processJob t.notificationId attemptNumber) ∨
    t.call.label? = none ∨
    t.notificationId ∈ t.underway ∧ WorksOn t.notificationId t.call (fun _ _ ↦ True) w

/-- What holds between two steps of the jobs and the deletions. -/
structure DeliveredOnce (p : Pool DeliveryWorld DeliveryTask) : Prop where
  handedOver : ∀ m ∈ p.shared.handedOver,
    m.status ≠ some .delivered ∧ m.status ≠ some .cancelled
  deleted : ∀ id ∈ p.shared.deleted, p.shared.status id = some .cancelled
  exclusive : Exclusive DeliveryTask.underway p.threads
  safe : ∀ t ∈ p.threads, t.Safe p.shared

section Runs

variable {p q : Pool DeliveryWorld DeliveryTask} {t t' u : DeliveryTask} {w w' : DeliveryWorld}
  {id userId : String} {i : ℕ} {env : DeliveryEnv}

theorem each_stores {G : String → DeliveryWorld → DeliveryWorld → Prop} {name : String}
    {f : DeliveryEnv → DeliveryWorld → Except Refusal DeliveryWorld} (hG : ∀ w, G name w w)
    (hf : ∀ env w w', f env w = .ok w' → G name w w') : (stores name f).Each G := by
  refine Call.each_perform hG fun env w w' _ h ↦ ?_
  cases hfault : env.fault with
  | some message => simp [hfault] at h
  | none =>
    cases hok : f env w with
    | error refusal => cases refusal <;> simp [hfault, hok] at h
    | ok w₁ =>
      simp only [hfault, hok, Except.ok.injEq, Prod.mk.injEq, and_true] at h
      exact hf env w w' (h ▸ hok)

theorem deleteNotification_removes : (deleteNotification userId id).Each (Removes id) := by
  refine Call.each_bind (Call.each_ask fun _ ↦ .inl rfl) fun notification ↦ ?_
  cases notification with
  | none => trivial
  | some notification =>
    dsimp only
    split_ifs
    · trivial
    · refine each_stores (fun _ ↦ .inl rfl) fun env w w' h ↦ .inr ⟨rfl, ?_⟩
      obtain ⟨t, hupdate, ht⟩ := andThen_eq_ok.mp h
      cases ht
      obtain ⟨⟨n, hn, hnid⟩, -⟩ := Table.update_eq_ok.mp hupdate
      refine ⟨?_, update_others hupdate fun _ ↦ rfl, rfl, rfl⟩
      have hget : w.platform.notifications.get? id = some n := Table.get?_eq_some.mpr ⟨hn, hnid⟩
      simp only [DeliveryWorld.status, DeliveryWorld.withNotifications,
        Table.get?_update hupdate (fun _ ↦ rfl), if_pos, hget, Option.map_some]

theorem mem_underway (hdeletes : t.deletes = false) {label : String}
    (hlabel : t.call.label? = some label) (hne : label ≠ "notification.findUnique") :
    t.notificationId ∈ t.underway := by
  unfold DeliveryTask.underway
  rw [hdeletes, hlabel]
  simp

theorem underway_cases (t : DeliveryTask) :
    t.underway = [] ∨ t.deletes = false ∧ t.underway = [t.notificationId] := by
  unfold DeliveryTask.underway
  split_ifs with hdeletes
  · exact .inl rfl
  · split
    · exact .inl rfl
    · exact .inl rfl
    · exact .inr ⟨by simpa using hdeletes, rfl⟩

theorem underway_eq (h : id ∈ t.underway) :
    t.deletes = false ∧ id = t.notificationId ∧ t.underway = [t.notificationId] := by
  rcases underway_cases t with hnone | ⟨hdeletes, hone⟩
  · rw [hnone] at h
    cases h
  · rw [hone] at h
    exact ⟨hdeletes, List.mem_singleton.mp h, hone⟩

theorem underway_sublist (t : DeliveryTask) : t.underway.Sublist [t.notificationId] := by
  rcases underway_cases t with hnone | ⟨-, hone⟩
  · rw [hnone]
    exact List.nil_sublist _
  · rw [hone]

/-- A working job is under way or has ended. -/
theorem safe_of_works (hdeletes : t.deletes = false)
    (h : WorksOn t.notificationId t.call (fun _ _ ↦ True) w) (env : DeliveryEnv) : t.Safe w := by
  rw [DeliveryTask.Safe, hdeletes, if_neg Bool.false_ne_true]
  cases hcall : t.call with
  | returned r => exact .inr (.inl rfl)
  | request label effect next =>
    rw [hcall] at h
    have hlabel : label ≠ "notification.findUnique" := (h w (Lasting.refl w) env trivial).1.label
    exact .inr (.inr ⟨mem_underway hdeletes (by rw [hcall]; rfl) hlabel, h⟩)

/-- The job of a thread goes on as before where its notification has kept its status. -/
theorem DeliveryTask.Safe.lasting (h : t.Safe w)
    (hlasting : t.notificationId ∈ t.underway → Lasting t.notificationId w w') : t.Safe w' := by
  unfold DeliveryTask.Safe at h ⊢
  split_ifs at h ⊢ with hdeletes
  · exact h
  · rcases h with hstart | hend | ⟨hunderway, hworks⟩
    · exact .inl hstart
    · exact .inr (.inl hend)
    · refine .inr (.inr ⟨hunderway, Call.wpg_stable ?_ (fun _ _ _ _ _ ↦ trivial) hworks
        (hlasting hunderway)⟩)
      exact fun _ _ _ hab hbc ↦ hab.trans hbc

/-- A step of one thread: what is to be shown of it alone. -/
theorem DeliveredOnce.run (hp : DeliveredOnce p)
    (hhanded : ∀ m ∈ w'.handedOver, m.status ≠ some .delivered ∧ m.status ≠ some .cancelled)
    (hdeleted : ∀ id ∈ w'.deleted, w'.status id = some .cancelled)
    (hexclusive : Exclusive DeliveryTask.underway (p.threads.set i t')) (hsafe : t'.Safe w')
    (hothers : ∀ j u, p.threads[j]? = some u → j ≠ i → u.notificationId ∈ u.underway →
      Lasting u.notificationId p.shared w') :
    DeliveredOnce ⟨w', p.threads.set i t'⟩ := by
  refine ⟨hhanded, hdeleted, hexclusive, fun u hu ↦ ?_⟩
  obtain ⟨j, hj⟩ := List.getElem?_of_mem hu
  rcases getElem?_set_cases hj with ⟨_, rfl⟩ | ⟨hji, hj⟩
  · exact hsafe
  · exact (hp.safe u (List.mem_of_getElem? hj)).lasting (hothers j u hj hji)

/-- A job finds its notification, and works on it if it is open. -/
theorem processJob_works {attemptNumber : Option ℕ} {c : Delivery Unit}
    (hdelivered : w.status id ≠ some .delivered) (hcancelled : w.status id ≠ some .cancelled)
    (h : (processJob id attemptNumber).step env w = some (w', c)) :
    w' = w ∧ WorksOn id c (fun _ _ ↦ True) w := by
  cases h
  refine ⟨rfl, ?_⟩
  cases hfault : env.fault with
  | some message =>
    simp only [hfault, Option.elim_some]
    trivial
  | none =>
    cases hget : w.platform.notifications.get? id with
    | none =>
      simp only [hfault, Option.elim_none, hget]
      trivial
    | some n =>
      have hstatus : w.status id = some n.status := by
        rw [DeliveryWorld.status, hget, Option.map_some]
      have hn : n.id = id := (Table.get?_eq_some.mp hget).2
      have hopen : w.Open n.id := by
        refine ⟨n.status, hn ▸ hstatus, fun hs ↦ hdelivered ?_, fun hs ↦ hcancelled ?_⟩
        · rw [hstatus, hs]
        · rw [hstatus, hs]
      simp only [hfault, Option.elim_none, hget]
      rw [← hn]
      show WorksOn n.id ((deliver n _ _).bind _) _ w
      refine Call.wpg_bind (Call.wpg_mono (deliver_works hopen) fun r w₁ _ ↦ ?_)
      cases r with
      | error x => trivial
      | ok result =>
        dsimp only
        split_ifs <;> trivial

theorem deliveries_step (h : deliveries.step env w t = some (w', t')) :
    t.call.step env w = some (w', t'.call) ∧ t'.notificationId = t.notificationId ∧
      t'.deletes = t.deletes := by
  obtain ⟨⟨w₁, c⟩, hc, hq⟩ := Option.map_eq_some_iff.mp h
  cases hq
  exact ⟨hc, rfl, rfl⟩

/-- A job starts on a notification that no other job is on. -/
theorem DeliveredOnce.starts (hp : DeliveredOnce p) (hi : p.threads[i]? = some t)
    (hok : OneAtATime p (.run i env)) {attemptNumber : Option ℕ} (hdeletes : t.deletes = false)
    (hcall : t.call = processJob t.notificationId attemptNumber)
    (hstep : deliveries.step env p.shared t = some (w', t')) :
    DeliveredOnce ⟨w', p.threads.set i t'⟩ := by
  have hlabel : t.call.label? = some "notification.findUnique" := by rw [hcall]; rfl
  obtain ⟨hdelivered, hcancelled, hfree⟩ := (hok t hi).1 hdeletes hlabel
  obtain ⟨hcstep, hid, hdel⟩ := deliveries_step hstep
  rw [hcall] at hcstep
  obtain ⟨rfl, hworks⟩ := processJob_works hdelivered hcancelled hcstep
  rw [← hid] at hworks
  have hsafe : t'.Safe p.shared := safe_of_works (hdel.trans hdeletes) hworks env
  refine hp.run hp.handedOver hp.deleted ?_ hsafe fun _ u _ _ _ ↦ Lasting.refl _
  refine hp.exclusive.take ((List.nodup_singleton _).sublist (underway_sublist t'))
    fun k hk j u hj _ hu ↦ ?_
  rw [(underway_eq hk).2.1, hid] at hu
  exact hfree u (List.mem_of_getElem? hj) hu

/-- A job goes on with its work. -/
theorem DeliveredOnce.works (hp : DeliveredOnce p) (hi : p.threads[i]? = some t)
    (hunderway : t.notificationId ∈ t.underway)
    (hworks : WorksOn t.notificationId t.call (fun _ _ ↦ True) p.shared)
    (hstep : deliveries.step env p.shared t = some (w', t')) :
    DeliveredOnce ⟨w', p.threads.set i t'⟩ := by
  obtain ⟨hcstep, hid, hdel⟩ := deliveries_step hstep
  obtain ⟨hdeletes, -, hone⟩ := underway_eq hunderway
  obtain ⟨⟨label, -, hG⟩, hworks'⟩ :=
    Call.wpg_step hworks (Lasting.refl _) (fun _ _ ↦ trivial) hcstep
  rw [← hid] at hworks'
  refine hp.run (fun m hm ↦ ?_) (fun k hk ↦ ?_) ?_
    (safe_of_works (hdel.trans hdeletes) hworks' env) fun j u hj hji hu ↦ ?_
  · rcases hG.handedOver with hsame | ⟨hopen, message, hmore⟩
    · exact hp.handedOver m (hsame ▸ hm)
    · rw [hmore, List.mem_append, List.mem_singleton] at hm
      rcases hm with hm | rfl
      · exact hp.handedOver m hm
      · obtain ⟨status, hs, hdelivered, hcancelled⟩ := hopen
        exact ⟨by simp [hs, hdelivered], by simp [hs, hcancelled]⟩
  · have hcancelled := hp.deleted k (hG.deleted ▸ hk)
    by_cases hk' : k = t.notificationId
    · subst hk'
      rcases hG.own with hsame | ⟨status, hs, -, hne⟩
      · rw [hsame, hcancelled]
      · rw [hcancelled, Option.some.injEq] at hs
        exact absurd hs.symm hne
    · rw [hG.others k hk', hcancelled]
  · exact hp.exclusive.release hi (by rw [hone, ← hid]; exact underway_sublist t')
  · have hne : u.notificationId ≠ t.notificationId := by
      intro he
      exact hji (hp.exclusive.apart j i u t _ hj hi hu (he ▸ hunderway))
    intro status hs
    rw [hG.others _ hne, hs]

/-- The owner deletes a notification. -/
theorem DeliveredOnce.removes (hp : DeliveredOnce p) (hi : p.threads[i]? = some t)
    (hok : OneAtATime p (.run i env)) (hdeletes : t.deletes = true)
    (hcall : t.call.Each (Removes t.notificationId))
    (hstep : deliveries.step env p.shared t = some (w', t')) :
    DeliveredOnce ⟨w', p.threads.set i t'⟩ := by
  obtain ⟨hcstep, hid, hdel⟩ := deliveries_step hstep
  obtain ⟨⟨label, hlabel, hG⟩, hcall'⟩ := hcall.step hcstep
  have hnone (v : DeliveryTask) (hv : v.deletes = true) : v.underway = [] := by
    unfold DeliveryTask.underway
    rw [if_pos hv]
  have hsafe : t'.Safe w' := by
    unfold DeliveryTask.Safe
    rw [if_pos (hdel.trans hdeletes), hid]
    exact hcall'
  have hexclusive : Exclusive DeliveryTask.underway (p.threads.set i t') :=
    hp.exclusive.release hi (by rw [hnone t' (hdel.trans hdeletes), hnone t hdeletes])
  rcases hG with rfl | ⟨rfl, hown, hothers, hhanded, hdeleted⟩
  · exact hp.run hp.handedOver hp.deleted hexclusive hsafe fun _ _ _ _ _ ↦ Lasting.refl _
  · refine hp.run (hhanded ▸ hp.handedOver) (fun k hk ↦ ?_) hexclusive hsafe fun j u hj _ hu ↦ ?_
    · by_cases hk' : k = t.notificationId
      · rw [hk', hown]
      · rw [hdeleted, List.mem_append, List.mem_singleton] at hk
        rw [hothers k hk', hp.deleted k (hk.resolve_right hk')]
    · have hfree := (hok t hi).2 hdeletes hlabel u (List.mem_of_getElem? hj)
      have hne : u.notificationId ≠ t.notificationId := fun he ↦ hfree (he ▸ hu)
      intro status hs
      rw [hothers _ hne, hs]

theorem DeliveredOnce.step {a : Move DeliveryTask DeliveryEnv} (hp : DeliveredOnce p)
    (hok : OneAtATime p a) (hs : deliveries.Step p a q) : DeliveredOnce q := by
  cases hs with
  | @spawn t ht =>
    have hstart : t.underway = [] ∧ t.Safe p.shared := by
      rcases ht with ⟨id, attemptNumber, rfl⟩ | ⟨userId, id, rfl⟩
      · exact ⟨rfl, .inl ⟨attemptNumber, rfl⟩⟩
      · exact ⟨rfl, deleteNotification_removes⟩
    refine ⟨hp.handedOver, hp.deleted, hp.exclusive.spawn hstart.1, fun u hu ↦ ?_⟩
    rcases List.mem_append.mp hu with hm | hm
    · exact hp.safe u hm
    · rw [List.mem_singleton.mp hm]
      exact hstart.2
  | @run i env t t' w' hi hstep =>
    have hsafe := hp.safe t (List.mem_of_getElem? hi)
    unfold DeliveryTask.Safe at hsafe
    split_ifs at hsafe with hdeletes
    · exact hp.removes hi hok hdeletes hsafe hstep
    · rcases hsafe with ⟨attemptNumber, hcall⟩ | hend | ⟨hunderway, hworks⟩
      · exact hp.starts hi hok (by simpa using hdeletes) hcall hstep
      · obtain ⟨r, hr⟩ := Call.exists_returned hend
        have hcstep := (deliveries_step hstep).1
        rw [hr] at hcstep
        cases hcstep
      · exact hp.works hi hunderway hworks hstep
  | @world w' hw =>
    obtain ⟨hlasting, hhanded, hdeleted⟩ := hw
    refine ⟨hhanded ▸ hp.handedOver, fun id hid ↦ ?_, hp.exclusive, fun t ht ↦ ?_⟩
    · exact hlasting id _ (hp.deleted id (hdeleted ▸ hid))
    · exact (hp.safe t ht).lasting fun _ ↦ hlasting _

/-- No job has been started, and nothing has been deleted. -/
def NothingSent (p : Pool DeliveryWorld DeliveryTask) : Prop :=
  p.threads = [] ∧ p.shared.handedOver = [] ∧ p.shared.deleted = []

theorem mem_getNotifications {query : NotificationQueryDto} {s : Platform}
    {r : NotificationResponseDto} (hr : r ∈ (getNotifications userId query s).data) :
    ∃ n ∈ s.notifications.rows, matchesQuery userId query n = true ∧ r = toResponse n := by
  obtain ⟨n, hn, rfl⟩ := List.mem_map.mp hr
  have hmem := List.mem_of_mem_drop (List.mem_of_mem_take hn)
  rw [List.mem_insertionSort, List.mem_filter] at hmem
  exact ⟨n, hmem.1, hmem.2, rfl⟩

/-- What a query that does not ask for cancelled notifications returns. -/
theorem status_of_matches {query : NotificationQueryDto} {n : Notification}
    (hquery : query.status ≠ some .cancelled) (h : matchesQuery userId query n = true) :
    n.status ≠ .cancelled := by
  simp only [matchesQuery, Bool.and_eq_true] at h
  obtain ⟨⟨⟨⟨⟨⟨-, hstatus⟩, -⟩, -⟩, -⟩, -⟩, -⟩ := h
  intro hcancelled
  cases hs : query.status with
  | none => simp [hs, hcancelled] at hstatus
  | some status =>
    rw [hs] at hstatus
    rw [← eq_of_beq hstatus, hcancelled] at hs
    exact hquery hs

/-- One job at a time, and no deletion under a job: then each notification is handed over while
it is open, and what was deleted stays so and is not listed. -/
theorem delivered_once (h : Reach deliveries.Step OneAtATime NothingSent p) :
    (∀ m ∈ p.shared.handedOver, m.status ≠ some .delivered ∧ m.status ≠ some .cancelled) ∧
    ∀ id ∈ p.shared.deleted, p.shared.status id = some .cancelled ∧
      ∀ userId query, query.status ≠ some .cancelled →
        ∀ r ∈ (getNotifications userId query p.shared.platform).data, r.id ≠ id := by
  have hI : DeliveredOnce p := by
    refine h.invariant (fun q hq ↦ ?_) fun _ _ _ hp hok hs ↦ hp.step hok hs
    obtain ⟨hthreads, hhanded, hdeleted⟩ := hq
    refine ⟨by simp [hhanded], by simp [hdeleted], hthreads ▸ .nil, by simp [hthreads]⟩
  refine ⟨hI.handedOver, fun id hid ↦ ⟨hI.deleted id hid, fun userId query hquery r hr hrid ↦ ?_⟩⟩
  obtain ⟨n, hn, hmatches, rfl⟩ := mem_getNotifications hr
  have hget : p.shared.platform.notifications.get? id = some n := Table.get?_eq_some.mpr ⟨hn, hrid⟩
  have hcancelled := hI.deleted id hid
  rw [DeliveryWorld.status, hget, Option.map_some, Option.some.injEq] at hcancelled
  exact status_of_matches hquery hmatches hcancelled

end Runs

section Sample

def reminder : Notification where
  id := "notification-1"
  userId := "user-1"
  type := .sessionReminder
  channel := .inApp
  title := "Session reminder"
  body := []
  data := .null
  status := .pending
  readAt := none
  deliveredAt := none
  failedAt := none
  idempotencyKey := none
  expiresAt := none
  createdAt := 0

def reminderWorld : DeliveryWorld where
  platform := { Platform.empty with notifications := .singleton reminder }
  deliveryAttempts := .empty
  userDevices := .empty
  handedOver := []
  deleted := []

/-- Nothing fails, and the attempt of thread `i` gets an id of its own. -/
def servedEnv (i : ℕ) : DeliveryEnv where
  now := 0
  fault := none
  newId := "attempt-" ++ toString i
  push := ⟨true, none, none, none, false⟩
  sent := true

def servedSteps (i n : ℕ) : List (ℕ × DeliveryEnv) := List.replicate n (i, servedEnv i)

def anyQuery : NotificationQueryDto :=
  ⟨1, 20, none, none, none, none, none, none⟩

def listed (query : NotificationQueryDto) (p : Pool DeliveryWorld DeliveryTask) : Bool :=
  (getNotifications "user-1" query p.shared.platform).data.any (·.id == "notification-1")

def twoJobs : List DeliveryTask :=
  [deliveryTask "notification-1" none, deliveryTask "notification-1" none]

def jobAndDeletion : List DeliveryTask :=
  [deliveryTask "notification-1" none, deletionTask "user-1" "notification-1"]

theorem starts_twoJobs (t : DeliveryTask) (ht : t ∈ twoJobs) : deliveries.start t := by
  simp only [twoJobs, List.mem_cons, List.not_mem_nil, or_false, or_self] at ht
  exact .inl ⟨_, _, ht⟩

theorem starts_jobAndDeletion (t : DeliveryTask) (ht : t ∈ jobAndDeletion) :
    deliveries.start t := by
  simp only [jobAndDeletion, List.mem_cons, List.not_mem_nil, or_false] at ht
  rcases ht with ht | ht
  · exact .inl ⟨_, _, ht⟩
  · exact .inr ⟨_, _, ht⟩

/-- The run of these threads from the reminder. -/
theorem reach_served {ok : Pool DeliveryWorld DeliveryTask → Move DeliveryTask DeliveryEnv → Prop}
    {ts : List DeliveryTask} {test : Pool DeliveryWorld DeliveryTask → Bool}
    (check : Pool DeliveryWorld DeliveryTask → ℕ → DeliveryEnv → Bool) (ms : List (ℕ × DeliveryEnv))
    (hok : ∀ p i e, check p i e = true → ok p (.run i e)) (hspawn : ∀ p t, ok p (.spawn t))
    (hts : ∀ t ∈ ts, deliveries.start t)
    (hrun : (deliveries.play check ms ⟨reminderWorld, ts⟩).any test = true) :
    ∃ p, Reach deliveries.Step ok NothingSent p ∧ test p = true := by
  have hinit : Reach deliveries.Step ok NothingSent ⟨reminderWorld, []⟩ := .start ⟨rfl, rfl, rfl⟩
  have hstart := Machine.reach_spawnAll (fun p t _ ↦ hspawn p t) hts hinit
  obtain ⟨p, hp, htest⟩ := (Option.any_eq_true ..).mp hrun
  exact ⟨p, Machine.reach_play hok hstart hp, htest⟩

def nobodyUnderway (p : Pool DeliveryWorld DeliveryTask) : Bool :=
  p.threads.all fun u ↦ u.underway.isEmpty

def oneAtATime (p : Pool DeliveryWorld DeliveryTask) (i : ℕ) (_ : DeliveryEnv) : Bool :=
  (p.threads[i]?).all fun t ↦
    (!t.deletes && t.call.label? != some "notification.findUnique") ||
      nobodyUnderway p && (t.deletes || p.shared.status t.notificationId == some .pending)

theorem oneAtATime_ok (p : Pool DeliveryWorld DeliveryTask) (i : ℕ) (env : DeliveryEnv)
    (h : oneAtATime p i env = true) : OneAtATime p (.run i env) := by
  intro t ht
  simp only [oneAtATime, ht, Option.all_some, Bool.or_eq_true, Bool.and_eq_true,
    Bool.not_eq_true', bne_iff_ne, beq_iff_eq] at h
  have hnobody (hn : nobodyUnderway p = true) (u : DeliveryTask) (hu : u ∈ p.threads) :
      t.notificationId ∉ u.underway := by
    have hempty := List.all_eq_true.mp hn u hu
    rw [List.isEmpty_iff.mp hempty]
    exact List.not_mem_nil
  refine ⟨fun hdeletes hlabel ↦ ?_, fun hdeletes _ ↦ ?_⟩
  · rcases h with ⟨-, hne⟩ | ⟨hn, hstatus⟩
    · exact absurd hlabel hne
    · rw [hdeletes] at hstatus
      have hpending := hstatus.resolve_left (by simp)
      exact ⟨by simp [hpending], by simp [hpending], hnobody hn⟩
  · rcases h with ⟨hfalse, -⟩ | ⟨hn, -⟩
    · rw [hdeletes] at hfalse
      cases hfalse
    · exact hnobody hn

/-- A notification is delivered, and then deleted. -/
theorem delivered_then_deleted : ∃ p : Pool DeliveryWorld DeliveryTask,
    (p.shared.handedOver.length == 1 && p.shared.deleted == ["notification-1"]) = true ∧
    p.shared.status "notification-1" = some .cancelled := by
  have hrun : (deliveries.play oneAtATime (servedSteps 0 4 ++ servedSteps 1 2)
      ⟨reminderWorld, jobAndDeletion⟩).any (fun p ↦
        p.shared.handedOver.length == 1 && p.shared.deleted == ["notification-1"]) = true := by
    decide +kernel
  obtain ⟨p, hp, htest⟩ := reach_served _ _ oneAtATime_ok (fun _ _ ↦ trivial)
    starts_jobAndDeletion hrun
  refine ⟨p, htest, ((delivered_once hp).2 _ ?_).1⟩
  rw [Bool.and_eq_true, beq_iff_eq, beq_iff_eq] at htest
  simp [htest.2]

/-- A second job hands over what is delivered; a deletion under a job does not last; a query
for cancelled notifications lists what was deleted. -/
theorem delivered_again :
    (∃ p, Reach deliveries.Step (fun _ _ ↦ True) NothingSent p ∧
      p.shared.handedOver.any (·.status == some .delivered) = true) ∧
    (∃ p, Reach deliveries.Step (fun _ _ ↦ True) NothingSent p ∧
      (p.shared.deleted == ["notification-1"] &&
        p.shared.status "notification-1" == some .delivered && listed anyQuery p) = true) ∧
    ∃ p, Reach deliveries.Step (fun _ _ ↦ True) NothingSent p ∧
      (p.shared.deleted == ["notification-1"] &&
        listed { anyQuery with status := some .cancelled } p) = true := by
  refine ⟨reach_served (fun _ _ _ ↦ true) (servedSteps 0 4 ++ servedSteps 1 2) (fun _ _ _ _ ↦ trivial)
      (fun _ _ ↦ trivial) starts_twoJobs ?_,
    reach_served (fun _ _ _ ↦ true) (servedSteps 0 1 ++ servedSteps 1 2 ++ servedSteps 0 3) (fun _ _ _ _ ↦ trivial)
      (fun _ _ ↦ trivial) starts_jobAndDeletion ?_,
    reach_served (fun _ _ _ ↦ true) (servedSteps 1 2) (fun _ _ _ _ ↦ trivial)
      (fun _ _ ↦ trivial) starts_jobAndDeletion ?_⟩
  · decide +kernel
  · decide +kernel
  · decide +kernel

end Sample

end Innovents.Notifications
