import DevBridge.Tray.Tracker

/-!
# What a session shows of other users

On a server every session gets the events of all users.  A session is isolated if nothing that
it shows is about a job of somebody else, and if what somebody else prints makes no difference
to it.  The events are told apart by the user that they carry; the stored jobs are asked for by
a URL that ends in the name of the user, and that name is not quoted.  So the dashboard may read
another name than the one that was meant, and it answers with the jobs of that user.
-/

namespace DevBridge

namespace Tray

/-! ### Isolation -/

/-- Names that Windows gives to a user have none of these characters, and no control
characters. -/
def windowsAllows (name : String) : Prop :=
  name.length ≤ 256 ∧ ∀ c ∈ name.toList, c ∉ "\"/\\[]:;|=,+*?<>".toList ∧ 0x20 ≤ c.toNat

instance (name : String) : Decidable (windowsAllows name) :=
  @instDecidableAnd _ _ inferInstance (List.decidableBAll _ name.toList)

/-- What a URL library and a query library are documented to do. -/
def Documented (params : String → List (String × String)) : Prop :=
  ∀ url, params url = UrlQuery.fields (UrlQuery.query url.toList)

/-- Whether a job is one of a user, up to the case of ASCII letters. -/
def owns (owner : String → Option String) (user jobId : String) : Bool :=
  (owner jobId).any fun name => eqIgnoreAsciiCase name user

/-- What a service in server mode sends: it never says that it is a client, and jobs and events
carry the user of their job; where the row of a job cannot be read, an event carries none. -/
def Serves (owner : String → Option String) : Input → Prop
  | .status reply => reply ≠ .ok "client"
  | .fetched _ jobs => ∀ job ∈ jobs.getD [], job.requestingUser = owner job.jobId
  | .opened | .polled _ => True
  | .event _ (.created jobId requestingUser _) => requestingUser = owner jobId
  | .event _ (.stateChanged jobId _ requestingUser) =>
    requestingUser = owner jobId ∨ requestingUser = none
  | .event _ (.print ..) => True

/-- What of an input is about jobs of a user. -/
def ownPart (owner : String → Option String) (user : String) : Input → Option Input
  | .fetched now jobs =>
    some (.fetched now (jobs.map fun jobs => jobs.filter fun job => owns owner user job.jobId))
  | .event now event => if owns owner user event.jobId then some (.event now event) else none
  | input => some input

def JobTracker.jobs (t : JobTracker) : List String := t.recentJobs.map (·.jobId)

namespace World

/-- The jobs that are in the list, have set the icon or raised a notification. -/
def shown (w : World) : List String :=
  w.tracker.jobs ++ w.iconJobs ++ w.notifications.map (·.jobId)

/-- What the user sees. -/
def view (w : World) : List RecentJob × IconState × List (String × String) :=
  (w.tracker.recentJobs, w.tracker.iconState, w.notifications.map fun n => (n.title, n.body))

end World

/-- The session of a user shows nothing of others. -/
structure Isolated (s : Session) (user : String) : Prop where
  /-- All that is shown is about jobs of the user. -/
  own : ∀ owner w, (tray s).Reach (fun _ input _ => Serves owner input) w →
    ∀ jobId ∈ w.shown, owns owner user jobId = true
  /-- Before the mode is known, nothing is shown. -/
  silent : ∀ owner w, (tray s).Reach (fun _ input _ => Serves owner input) w →
    w.tracker.filter = .pending → w.shown = []
  /-- Inputs that differ in the jobs and events of others make no difference. -/
  blind : ∀ owner inputs inputs' w w', (∀ input ∈ inputs, Serves owner input) →
    (∀ input ∈ inputs', Serves owner input) →
    inputs.filterMap (ownPart owner user) = inputs'.filterMap (ownPart owner user) →
    (tray s).run (tray s).init inputs = some w → (tray s).run (tray s).init inputs' = some w' →
    w.view = w'.view

/-! ### The name in the query -/

lemma kept_of_isDigit {c : Char} (h : c.isDigit = true) : UrlQuery.Kept c := by
  have hrange : 0x30 ≤ c.toNat ∧ c.toNat ≤ 0x39 := by
    simpa [Char.isDigit, Char.le_def, UInt32.le_iff_toNat_le] using h
  have hall : ∀ n : Fin 10, UrlQuery.Kept (Char.ofNat (0x30 + n)) := by decide
  have h := hall ⟨c.toNat - 0x30, by omega⟩
  rw [show 0x30 + (c.toNat - 0x30) = c.toNat by omega, Char.ofNat_toNat] at h
  exact h

/-- The text of the URL before its query. -/
def jobsPath (port : ℕ) : List Char := (dashboardUrl port ++ "/api/jobs").toList

/-- The fixed part of the query. -/
def queryHead : List Char := "limit=5&requesting_user=".toList

lemma kept_of_all {text : List Char} (h : (text.all fun c => UrlQuery.Kept c) = true) :
    ∀ c ∈ text, UrlQuery.Kept c := by
  intro c hc
  exact of_decide_eq_true (List.all_eq_true.mp h c hc)

/-- The fixed texts of the URL: a query keeps their characters, the names and the limit stand for
themselves, and the texts lie beside each other. -/
lemma urlTexts :
    (∀ c ∈ "http://127.0.0.1:".toList, UrlQuery.Kept c) ∧
    (∀ c ∈ "/api/jobs".toList, UrlQuery.Kept c) ∧ (∀ c ∈ queryHead, UrlQuery.Kept c) ∧
    (∀ text ∈ ["limit", "5", "requesting_user"], ('=' ∉ text.toList ∧ '&' ∉ text.toList) ∧
      '+' ∉ text.toList ∧ UrlQuery.hasCode text.toList = false) ∧
    "/api/jobs?limit=5&requesting_user=".toList = "/api/jobs".toList ++ '?' :: queryHead ∧
    queryHead = "limit=5".toList ++ '&' :: ("requesting_user".toList ++ ['=']) ∧
    "limit=5".toList = "limit".toList ++ '=' :: "5".toList ∧ '&' ∉ "limit=5".toList ∧
    parseUsize "5".toList = some 5 ∧ parseUsize "".toList = none := by
  refine ⟨kept_of_all (by decide +kernel), kept_of_all (by decide +kernel),
    kept_of_all (by decide +kernel), ?_, by decide +kernel, by decide +kernel, by decide +kernel,
    by decide +kernel, by decide +kernel, by decide +kernel⟩
  simp only [List.forall_mem_cons, List.not_mem_nil, false_imp_iff, implies_true, and_true]
  exact ⟨by decide +kernel, by decide +kernel, by decide +kernel⟩

lemma decode_of_mem_texts {text : String} (h : text ∈ ["limit", "5", "requesting_user"]) :
    UrlQuery.decode text.toList = text := by
  obtain ⟨-, hplus, hcode⟩ := urlTexts.2.2.2.1 text h
  rw [UrlQuery.decode_of_noCode hplus hcode, String.ofList_toList]

lemma kept_of_mem_jobsPath {port : ℕ} : ∀ c ∈ jobsPath port, UrlQuery.Kept c := by
  intro c hc
  have hmem : c ∈ "http://127.0.0.1:".toList ∨ c ∈ (toString port).toList ∨
      c ∈ "/api/jobs".toList := by
    have hurl : dashboardUrl port = "http://127.0.0.1:" ++ toString port := rfl
    simpa only [jobsPath, hurl, String.toList_append, List.mem_append, or_assoc] using hc
  rcases hmem with hmem | hmem | hmem
  · exact urlTexts.1 c hmem
  · rw [Nat.toString_eq_repr, Nat.toList_repr] at hmem
    exact kept_of_isDigit (Nat.isDigit_of_mem_toDigits (by decide) (by decide) hmem)
  · exact urlTexts.2.1 c hmem

lemma jobsUrl_toList (port : ℕ) (name : String) :
    ∃ url, jobsUrl port (.user name) = some url ∧
      url.toList = jobsPath port ++ '?' :: (queryHead ++ name.toList) := by
  refine ⟨_, rfl, ?_⟩
  obtain ⟨-, -, -, -, hhead, -⟩ := urlTexts
  rw [String.toList_append, String.toList_append, hhead, jobsPath, String.toList_append]
  simp only [List.append_assoc, List.cons_append]

lemma fields_limit : UrlQuery.fields "limit=5".toList = [("limit", "5")] := by
  obtain ⟨-, -, -, htexts, -, -, hsplit, hone, -⟩ := urlTexts
  have hne : ("limit=5".toList).isEmpty = false := by
    rw [hsplit]
    simp
  rw [UrlQuery.fields, List.splitOn_eq_singleton hone]
  simp only [List.filter_cons, List.filter_nil, hne, Bool.not_false, if_true,
    List.map_cons, List.map_nil]
  rw [hsplit, UrlQuery.field_append (htexts "limit" (by simp)).1.1,
    decode_of_mem_texts (by simp), decode_of_mem_texts (by simp)]

/-- The fields that the dashboard reads: the limit, the name as it is read back, and what the
name may have added. -/
lemma fields_jobsUrl {params : String → List (String × String)} (hparams : Documented params)
    (port : ℕ) (name : String) :
    ∃ url more, jobsUrl port (.user name) = some url ∧
      params url = ("limit", "5") :: ("requesting_user", UrlQuery.readBack name.toList) ::
        UrlQuery.fields more ∧
      ('=' ∉ name.toList → '=' ∉ more) ∧ (UrlQuery.Plain name.toList → more = []) := by
  obtain ⟨url, hurl, htext⟩ := jobsUrl_toList port name
  have hquery : UrlQuery.query url.toList =
      queryHead ++ (UrlQuery.cut name.toList).flatMap UrlQuery.quote := by
    rw [htext]
    refine UrlQuery.query_append ?_ kept_of_mem_jobsPath urlTexts.2.2.1
    simp [jobsPath]
  have hhead : ∀ rest : List Char, queryHead ++ rest =
      "limit=5".toList ++ '&' :: ("requesting_user".toList ++ '=' :: rest) := by
    intro rest
    obtain ⟨-, -, -, -, -, h, -⟩ := urlTexts
    rw [h]
    simp only [List.append_assoc, List.cons_append, List.nil_append]
  obtain ⟨more, hfields, hmore, hplain⟩ := UrlQuery.fields_append "limit=5".toList
    (UrlQuery.cut name.toList)
    (urlTexts.2.2.2.1 "requesting_user" (by simp)).1
  refine ⟨url, more, hurl, ?_, fun h => hmore fun hmem => h ?_, fun h => hplain ?_⟩
  · rw [hparams, hquery, hhead, hfields, fields_limit, decode_of_mem_texts (by simp)]
    rfl
  · exact UrlQuery.mem_of_mem_cut hmem
  · rw [UrlQuery.cut_eq h.fragment h.noBreak h.blankEnd]
    exact h.separator

/-! ### What the dashboard answers -/

lemma mem_of_param {params : List (String × String)} {name value : String}
    (h : param params name = some value) : (name, value) ∈ params := by
  unfold param at h
  obtain ⟨f, hf, rfl⟩ := Option.map_eq_some_iff.mp h
  have hmem := List.mem_filter.mp (List.mem_of_getLast? hf)
  obtain rfl : f.1 = name := by simpa using hmem.2
  exact hmem.1

lemma param_isSome {params : List (String × String)} {name value : String}
    (h : (name, value) ∈ params) : ∃ value', param params name = some value' := by
  have hne : params.filter (fun f => f.1 = name) ≠ [] :=
    List.ne_nil_of_mem (List.mem_filter.mpr ⟨h, by simp⟩)
  exact ⟨_, by rw [param, List.getLast?_eq_some_getLast hne, Option.map_some]⟩

/-- For a plain name the dashboard answers with the jobs of the user. -/
lemma getJobs_of_plain {params : String → List (String × String)} (hparams : Documented params)
    {port : ℕ} {name url : String} (hplain : UrlQuery.Plain name.toList)
    (hurl : jobsUrl port (.user name) = some url) (jobs : List StoredJob) :
    getJobs (params url) jobs =
      ((jobs.filter fun job => job.requestingUser = some name).take 5).map StoredJob.toApi := by
  obtain ⟨url', more, hurl', hfields, -, hmore⟩ := fields_jobsUrl hparams port name
  obtain rfl : url = url' := Option.some.inj (hurl.symm.trans hurl')
  rw [hmore hplain, UrlQuery.readBack_of_plain hplain, String.ofList_toList] at hfields
  have hnone : UrlQuery.fields [] = [] := by decide
  have hlimit : param (params url) "limit" = some "5" := by
    have hname : ("requesting_user" : String) ≠ "limit" := by decide
    rw [hfields, hnone]
    simp [param, hname]
  have huser : param (params url) "requesting_user" = some name := by
    have hname : ("limit" : String) ≠ "requesting_user" := by decide
    rw [hfields, hnone]
    simp [param, hname]
  obtain ⟨-, -, -, -, -, -, -, -, hparse, -⟩ := urlTexts
  have hfive : ((some "5").bind fun text : String => parseUsize text.toList).getD 100 = 5 := by
    rw [Option.bind_some, hparse, Option.getD_some]
  simp only [getJobs, hlimit, huser, hfive]

/-- For any other name that has no equals sign and no plus sign it answers with the jobs of a
user whose name is shorter. -/
lemma getJobs_of_not_plain {params : String → List (String × String)} (hparams : Documented params)
    (port : ℕ) {name : String} (heq : '=' ∉ name.toList) (hplus : '+' ∉ name.toList)
    (hplain : ¬ UrlQuery.Plain name.toList) :
    ∃ url user limit, jobsUrl port (.user name) = some url ∧
      user.toList.length < name.toList.length ∧ 0 < limit ∧ ∀ jobs, getJobs (params url) jobs =
        ((jobs.filter fun job => job.requestingUser = some user).take limit).map
          StoredJob.toApi := by
  obtain ⟨url, more, hurl, hfields, hmore, -⟩ := fields_jobsUrl hparams port name
  have hshort : (UrlQuery.readBack name.toList).toList.length < name.toList.length := by
    by_contra hle
    exact hplain (UrlQuery.plain_of_length hplus (by omega))
  have hempty := UrlQuery.value_of_fields (hmore heq)
  obtain ⟨user, huser⟩ := param_isSome
    (show ("requesting_user", UrlQuery.readBack name.toList) ∈ params url by rw [hfields]; simp)
  obtain ⟨text, htext⟩ := param_isSome
    (show ("limit", "5") ∈ params url by rw [hfields]; simp)
  have huserMem := mem_of_param huser
  have htextMem := mem_of_param htext
  rw [hfields] at huserMem htextMem
  have huserShort : user.toList.length < name.toList.length := by
    rcases List.mem_cons.mp huserMem with h | h
    · exact absurd (congrArg Prod.fst h) (show "requesting_user" ≠ "limit" by decide)
    rcases List.mem_cons.mp h with h | h
    · obtain rfl := congrArg Prod.snd h
      exact hshort
    · obtain rfl : user = "" := hempty _ h
      exact lt_of_le_of_lt (Nat.zero_le _) hshort
  obtain ⟨-, -, -, -, -, -, -, -, hfive, hnone⟩ := urlTexts
  have hlimit : 0 < ((parseUsize text.toList)).getD 100 := by
    rcases List.mem_cons.mp htextMem with h | h
    · obtain rfl : text = "5" := congrArg Prod.snd h
      rw [hfive]
      decide
    rcases List.mem_cons.mp h with h | h
    · exact absurd (congrArg Prod.fst h) (show "limit" ≠ "requesting_user" by decide)
    · obtain rfl : text = "" := hempty _ h
      rw [hnone]
      decide
  refine ⟨url, user, _, hurl, huserShort, hlimit, fun jobs => ?_⟩
  simp only [getJobs, huser, htext, Option.bind_some]

/-! ### What an input can change -/

namespace JobTracker

variable (t : JobTracker)

lemma setStatus_jobId (jobId : String) (status : JobDisplayStatus) (jobs : List RecentJob) :
    (setStatus jobId status jobs).map (·.jobId) = jobs.map (·.jobId) := by
  induction jobs with
  | nil => rfl
  | cons job jobs ih =>
    rw [setStatus]
    split
    · rfl
    · rw [List.map_cons, List.map_cons, ih]

@[simp] lemma jobs_display (jobId : String) (status : JobDisplayStatus) (icon : IconState) :
    (t.display jobId status icon).jobs = t.jobs := setStatus_jobId jobId status _

@[simp] lemma filter_display (jobId : String) (status : JobDisplayStatus) (icon : IconState) :
    (t.display jobId status icon).filter = t.filter := rfl

lemma mem_jobs_of_knows {jobId : String} (h : t.knows jobId = true) : jobId ∈ t.jobs := by
  simp only [knows, List.any_eq_true, decide_eq_true_eq] at h
  obtain ⟨job, hmem, rfl⟩ := h
  exact List.mem_map_of_mem hmem

@[simp] lemma jobs_onPrintEvent (jobId : String) (stage : Server.PrintStage) (success : Bool) :
    (t.onPrintEvent jobId stage success).jobs = t.jobs := by
  unfold onPrintEvent
  split
  · cases ofStage stage success <;> simp
  · rfl

@[simp] lemma filter_onPrintEvent (jobId : String) (stage : Server.PrintStage) (success : Bool) :
    (t.onPrintEvent jobId stage success).filter = t.filter := by
  unfold onPrintEvent
  split
  · cases ofStage stage success <;> rfl
  · rfl

/-- A change of the state of a job: either nothing happens, or the job is in the list. -/
lemma onStateChanged_cases (jobId : String) (state : Server.JobState) :
    t.onStateChanged jobId state = (t, none) ∨
      jobId ∈ t.jobs ∧ ∃ status icon,
        t.onStateChanged jobId state = (t.display jobId status icon, some status) := by
  unfold onStateChanged
  by_cases hknows : t.knows jobId = true
  · rw [if_pos hknows]
    rcases ofState state with _ | ⟨status, icon⟩
    · exact .inl rfl
    · exact .inr ⟨t.mem_jobs_of_knows hknows, status, icon, rfl⟩
  · rw [if_neg hknows]
    exact .inl rfl

lemma mem_jobs_addJob {job : RecentJob} {jobId : String} (h : jobId ∈ (t.addJob job).jobs) :
    jobId = job.jobId ∨ jobId ∈ t.jobs := by
  obtain ⟨job', hmem, rfl⟩ := List.mem_map.mp h
  rcases List.mem_cons.mp ((List.take_subset _ _) hmem) with rfl | hmem
  · exact .inl rfl
  · exact .inr (List.mem_map_of_mem hmem)

/-- The jobs of an answer are the only ones that are added. -/
lemma addAll_spec (now : Time) (jobs : List ApiJob) :
    (t.addAll now jobs).filter = t.filter ∧
      ∀ jobId ∈ (t.addAll now jobs).jobs, jobId ∈ t.jobs ∨ ∃ job ∈ jobs, job.id = some jobId := by
  have hfold : ∀ (new : List RecentJob) (t : JobTracker), (new.foldl addJob t).filter = t.filter ∧
      ∀ jobId ∈ (new.foldl addJob t).jobs, jobId ∈ t.jobs ∨ ∃ job ∈ new, job.jobId = jobId := by
    intro new
    induction new with
    | nil => exact fun t => ⟨rfl, fun jobId h => .inl h⟩
    | cons job new ih =>
      intro t
      obtain ⟨hfilter, hjobs⟩ := ih (t.addJob job)
      refine ⟨hfilter, fun jobId h => ?_⟩
      rcases hjobs jobId h with h | ⟨job', hmem, hid⟩
      · rcases t.mem_jobs_addJob h with rfl | h
        · exact .inr ⟨job, List.mem_cons_self, rfl⟩
        · exact .inl h
      · exact .inr ⟨job', List.mem_cons_of_mem _ hmem, hid⟩
  obtain ⟨hfilter, hjobs⟩ := hfold (jobs.reverse.filterMap (ApiJob.toRecent now)) t
  refine ⟨hfilter, fun jobId h => (hjobs jobId h).imp id ?_⟩
  rintro ⟨job, hmem, rfl⟩
  obtain ⟨api, hapi, hjob⟩ := List.mem_filterMap.mp hmem
  refine ⟨api, List.mem_reverse.mp hapi, ?_⟩
  simp only [ApiJob.toRecent] at hjob
  split at hjob
  next => cases hjob
  next hne =>
    obtain rfl := Option.some.inj hjob
    rcases hid : api.id with _ | id
    · rw [hid] at hne
      exact absurd rfl hne
    · rfl

@[simp] lemma jobs_setOnline (online : Bool) : (t.setOnline online).jobs = t.jobs := by
  unfold setOnline
  split_ifs <;> rfl

@[simp] lemma filter_setOnline (online : Bool) : (t.setOnline online).filter = t.filter := by
  unfold setOnline
  split_ifs <;> rfl

end JobTracker

namespace World

variable {w : World} {jobId : String}

lemma mem_shown : jobId ∈ w.shown ↔
    jobId ∈ w.tracker.jobs ∨ jobId ∈ w.iconJobs ∨ jobId ∈ w.notifications.map (·.jobId) := by
  rw [shown, List.mem_append, List.mem_append, or_assoc]

/-- An event shows its own job at most. -/
lemma handle_spec (w : World) (now : Time) (event : WsEvent) :
    (w.handle now event).tracker.filter = w.tracker.filter ∧
      ∀ jobId ∈ (w.handle now event).shown, jobId ∈ w.shown ∨ jobId = event.jobId := by
  cases event with
  | created jobId requestingUser targetPrinter =>
    simp only [handle]
    split
    · refine ⟨rfl, fun id hid => ?_⟩
      simp only [mem_shown, List.map_append, List.mem_append, List.map_cons, List.map_nil,
        List.mem_singleton] at hid ⊢
      rcases hid with hid | (hid | rfl) | (hid | rfl)
      · rcases w.tracker.mem_jobs_addJob hid with rfl | hid
        · exact .inr rfl
        · exact .inl (.inl hid)
      · exact .inl (.inr (.inl hid))
      · exact .inr rfl
      · exact .inl (.inr (.inr hid))
      · exact .inr rfl
    · exact ⟨rfl, fun id hid => .inl hid⟩
  | stateChanged jobId newState requestingUser =>
    simp only [handle]
    split
    · rcases w.tracker.onStateChanged_cases jobId newState with h | ⟨-, status, icon, h⟩
      · rw [h]
        exact ⟨rfl, fun id hid => .inl hid⟩
      · rw [h]
        refine ⟨rfl, fun id hid => ?_⟩
        simp only [mem_shown, JobTracker.jobs_display, List.map_append, List.mem_append,
          List.mem_singleton] at hid ⊢
        rcases hid with hid | (hid | rfl) | (hid | hid)
        · exact .inl (.inl hid)
        · exact .inl (.inr (.inl hid))
        · exact .inr rfl
        · exact .inl (.inr (.inr hid))
        · cases status <;> simp [title] at hid
          all_goals exact .inr hid
    · exact ⟨rfl, fun id hid => .inl hid⟩
  | print jobId stage success =>
    simp only [handle]
    split
    · refine ⟨w.tracker.filter_onPrintEvent jobId stage success, fun id hid => ?_⟩
      simp only [mem_shown, JobTracker.jobs_onPrintEvent, List.mem_append] at hid ⊢
      rcases hid with hid | (hid | hid) | hid
      · exact .inl (.inl hid)
      · exact .inl (.inr (.inl hid))
      · obtain ⟨-, -, rfl⟩ := Option.map_eq_some_iff.mp (Option.mem_toList.mp hid)
        exact .inr rfl
      · exact .inl (.inr (.inr hid))
    · exact ⟨rfl, fun id hid => .inl hid⟩

end World

/-! ### What the session keeps -/

/-- A session that shows only jobs of its user. -/
structure Mine (owner : String → Option String) (user : String) (w : World) : Prop where
  filter : w.tracker.filter = .pending ∨ w.tracker.filter = .user user
  silent : w.tracker.filter = .pending → w.shown = []
  shown : ∀ jobId ∈ w.shown, owns owner user jobId = true

/-- The dashboard answers the session with the jobs of its user. -/
def Asks (s : Session) (user : String) : Prop :=
  ∀ url jobs, jobsUrl s.port (.user user) = some url → getJobs (s.params url) jobs =
    ((jobs.filter fun job => job.requestingUser = some user).take 5).map StoredJob.toApi

variable {s : Session} {owner : String → Option String} {user : String} {w w' : World}
  {input : Input}

lemma eqIgnoreAsciiCase_refl (name : String) : eqIgnoreAsciiCase name name = true := by
  simp [eqIgnoreAsciiCase]

/-- An event about a job of somebody else changes nothing. -/
lemma handle_other {now : Time} {event : WsEvent} (h : Mine owner user w)
    (hserves : Serves owner (.event now event)) (hother : owns owner user event.jobId = false) :
    w.handle now event = w := by
  have hdrop : ∀ requestingUser jobId, owns owner user jobId = false →
      requestingUser = owner jobId ∨ requestingUser = none →
      w.tracker.shouldProcess requestingUser = false := by
    intro requestingUser jobId howns hsent
    unfold JobTracker.shouldProcess
    rcases h.filter with hfilter | hfilter
    · rw [hfilter]
    · rw [hfilter]
      rcases hsent with rfl | rfl
      · exact howns
      · rfl
  cases event with
  | created jobId requestingUser targetPrinter =>
    rw [World.handle, hdrop requestingUser jobId hother (.inl hserves)]
    rfl
  | stateChanged jobId newState requestingUser =>
    simp only [World.handle, hdrop requestingUser jobId hother hserves]
    rfl
  | print jobId stage success =>
    have hknows : w.tracker.knows jobId = false := by
      by_contra hknows
      have hmem := w.tracker.mem_jobs_of_knows (by simpa using hknows)
      rw [WsEvent.jobId, h.shown jobId (World.mem_shown.mpr (.inl hmem))] at hother
      cases hother
    rw [World.handle, hknows]
    rfl

/-- Before the mode is known every event is dropped. -/
lemma handle_pending {now : Time} {event : WsEvent} (h : Mine owner user w)
    (hpending : w.tracker.filter = .pending) : w.handle now event = w := by
  have hdrop : ∀ requestingUser, w.tracker.shouldProcess requestingUser = false := by
    intro requestingUser
    rw [JobTracker.shouldProcess, hpending]
  cases event with
  | created jobId requestingUser targetPrinter =>
    rw [World.handle, hdrop]
    rfl
  | stateChanged jobId newState requestingUser =>
    simp only [World.handle, hdrop]
    rfl
  | print jobId stage success =>
    have hknows : w.tracker.knows jobId = false := by
      by_contra hknows
      have hmem := w.tracker.mem_jobs_of_knows (by simpa using hknows)
      have hshown := World.mem_shown.mpr (.inl hmem)
      rw [h.silent hpending] at hshown
      cases hshown
    rw [World.handle, hknows]
    rfl

lemma mine_handle {now : Time} {event : WsEvent} (h : Mine owner user w)
    (hserves : Serves owner (.event now event)) : Mine owner user (w.handle now event) := by
  obtain ⟨hfilter, hshown⟩ := w.handle_spec now event
  rcases hother : owns owner user event.jobId with _ | _
  · rw [handle_other h hserves hother]
    exact h
  rcases h.filter with hpending | huser
  · rw [handle_pending h hpending]
    exact h
  · refine ⟨.inr (hfilter.trans huser), fun hp => ?_, fun jobId hid => ?_⟩
    · rw [hfilter, huser] at hp
      cases hp
    · rcases hshown jobId hid with hid | rfl
      · exact h.shown jobId hid
      · exact hother

lemma mine_detect (h : Mine owner user w) (huser : s.username = some user)
    (hpending : w.tracker.filter = .pending) {reply : Except FetchError String}
    (hserves : reply ≠ .ok "client") : Mine owner user (w.detect s.username reply) := by
  have hsilent := h.silent hpending
  rcases reply with _ | mode
  · exact h
  · have hclient : mode ≠ "client" := fun hmode => hserves (hmode ▸ rfl)
    simp only [World.detect, if_neg hclient, huser]
    split
    · have hshown : ({ w with tracker := w.tracker.setFilterState (.user user) } : World).shown =
          w.shown := rfl
      refine ⟨.inr rfl, nofun, ?_⟩
      rw [hshown, hsilent]
      simp
    · exact h

/-- What the fetch adds are jobs of the user. -/
lemma mine_fetched (h : Mine owner user w) (hasks : Asks s user) {now : Time} {url : String}
    {jobs : Option (List StoredJob)} (hurl : jobsUrl s.port w.tracker.filter = some url)
    (hserves : ∀ job ∈ jobs.getD [], job.requestingUser = owner job.jobId) :
    Mine owner user { w with
      tracker := jobs.elim w.tracker fun jobs =>
        w.tracker.addAll now (getJobs (s.params url) jobs)
      phase := .opening } := by
  have hfilter : w.tracker.filter = .user user := by
    rcases h.filter with hpending | hfilter
    · rw [hpending] at hurl
      cases hurl
    · exact hfilter
  rcases jobs with _ | jobs
  · exact ⟨h.filter, h.silent, h.shown⟩
  rw [hfilter] at hurl
  obtain ⟨hsame, hadded⟩ := w.tracker.addAll_spec now (getJobs (s.params url) jobs)
  refine ⟨.inr (hsame.trans hfilter), fun hp => ?_, fun jobId hid => ?_⟩
  · cases (hsame.trans hfilter).symm.trans hp
  rcases World.mem_shown.mp hid with hid | hid
  · rcases hadded jobId hid with hid | ⟨api, hmem, hapi⟩
    · exact h.shown jobId (World.mem_shown.mpr (.inl hid))
    · rw [hasks url jobs hurl] at hmem
      obtain ⟨job, hjob, rfl⟩ := List.mem_map.mp hmem
      have hjob := List.mem_filter.mp ((List.take_subset _ _) hjob)
      obtain rfl : job.jobId = jobId := Option.some.inj hapi
      have howner := hserves job hjob.1
      rw [show job.requestingUser = some user by simpa using hjob.2] at howner
      rw [owns, ← howner]
      exact eqIgnoreAsciiCase_refl user
  · exact h.shown jobId (World.mem_shown.mpr (.inr hid))

lemma mine_setOnline (h : Mine owner user w) (online : Bool) (phase : Phase) :
    Mine owner user { w with tracker := w.tracker.setOnline online, phase := phase } := by
  have hshown : ({ w with tracker := w.tracker.setOnline online, phase := phase } : World).shown =
      w.shown := by simp [World.shown]
  have hfilter := w.tracker.filter_setOnline online
  refine ⟨?_, ?_, ?_⟩
  · rw [hfilter]
    exact h.filter
  · rw [hshown, hfilter]
    exact h.silent
  · rw [hshown]
    exact h.shown

/-- Every input keeps it. -/
lemma mine_step (huser : s.username = some user) (hasks : Asks s user) (h : Mine owner user w)
    (hserves : Serves owner input) (hstep : s.step w input = some w') : Mine owner user w' := by
  cases input with
  | status reply =>
    simp only [Session.step, Option.ite_none_right_eq_some, Option.some.injEq] at hstep
    obtain ⟨hpending, rfl⟩ := hstep
    exact mine_detect h huser hpending hserves
  | fetched now jobs =>
    rcases hphase : w.phase with _ | _ | _
    · rcases hurl : jobsUrl s.port w.tracker.filter with _ | url
      · simp [Session.step, hphase, hurl] at hstep
      · simp only [Session.step, hphase, hurl, Option.some.injEq] at hstep
        subst hstep
        exact mine_fetched h hasks hurl hserves
    · simp [Session.step, hphase] at hstep
    · simp [Session.step, hphase] at hstep
  | opened =>
    simp only [Session.step, Option.ite_none_right_eq_some, Option.some.injEq] at hstep
    obtain ⟨-, rfl⟩ := hstep
    exact mine_setOnline h true .running
  | polled online =>
    simp only [Session.step, Option.some.injEq] at hstep
    subst hstep
    exact mine_setOnline h online w.phase
  | event now event =>
    simp only [Session.step, Option.ite_none_right_eq_some, Option.some.injEq] at hstep
    obtain ⟨-, rfl⟩ := hstep
    exact mine_handle h hserves

lemma mine_init : Mine owner user World.init :=
  have hshown : World.init.shown = [] := rfl
  ⟨.inl rfl, fun _ => hshown, by simp [hshown]⟩

lemma mine_of_reach (huser : s.username = some user) (hasks : Asks s user)
    (hreach : (tray s).Reach (fun _ input _ => Serves owner input) w) : Mine owner user w :=
  hreach.invariant mine_init fun _ _ _ _ hmine hstep hserves =>
    mine_step huser hasks hmine hserves hstep

/-- An input does what the part of it does that is about the user. -/
lemma step_ownPart (hasks : Asks s user) (h : Mine owner user w)
    (hserves : Serves owner input) (hstep : s.step w input = some w') :
    match ownPart owner user input with
    | none => w' = w
    | some part => s.step w part = some w' := by
  cases input with
  | status reply => exact hstep
  | opened => exact hstep
  | polled online => exact hstep
  | event now event =>
    rcases hother : owns owner user event.jobId with _ | _
    · simp only [ownPart, hother]
      simp only [Session.step, Option.ite_none_right_eq_some, Option.some.injEq] at hstep
      rw [← hstep.2, handle_other h hserves hother]
      rfl
    · simp only [ownPart, hother]
      exact hstep
  | fetched now jobs =>
    rcases jobs with _ | jobs
    · exact hstep
    simp only [ownPart, Option.map_some]
    rcases hphase : w.phase with _ | _ | _
    · rcases hurl : jobsUrl s.port w.tracker.filter with _ | url
      · simp [Session.step, hphase, hurl] at hstep
      · have hfilter : w.tracker.filter = .user user := by
          rcases h.filter with hpending | hfilter
          · rw [hpending] at hurl
            cases hurl
          · exact hfilter
        have hsame : getJobs (s.params url) (jobs.filter fun job => owns owner user job.jobId) =
            getJobs (s.params url) jobs := by
          rw [hfilter] at hurl
          rw [hasks url _ hurl, hasks url _ hurl, List.filter_filter]
          refine congrArg (fun kept : List StoredJob => (kept.take 5).map StoredJob.toApi)
            (List.filter_congr fun job hjob => ?_)
          rw [Bool.and_eq_left_iff_imp]
          intro hasked
          have howner := hserves job hjob
          rw [of_decide_eq_true hasked] at howner
          rw [owns, ← howner]
          exact eqIgnoreAsciiCase_refl user
        simp only [Session.step, hphase, hurl, Option.elim_some, hsame] at hstep ⊢
        exact hstep
    · simp [Session.step, hphase] at hstep
    · simp [Session.step, hphase] at hstep

/-- A run ends where the part of it ends that is about the user. -/
lemma run_ownPart (huser : s.username = some user) (hasks : Asks s user) {inputs : List Input}
    (h : Mine owner user w) (hserves : ∀ input ∈ inputs, Serves owner input)
    (hrun : (tray s).run w inputs = some w') :
    (tray s).run w (inputs.filterMap (ownPart owner user)) = some w' := by
  induction inputs generalizing w with
  | nil => exact hrun
  | cons input inputs ih =>
    rw [Transition.run_cons] at hrun
    obtain ⟨w₁, hstep, hrun⟩ := Option.bind_eq_some_iff.mp hrun
    have hinput := hserves input List.mem_cons_self
    have hrest := ih (mine_step huser hasks h hinput hstep)
      (fun i hi => hserves i (List.mem_cons_of_mem _ hi)) hrun
    have hpart := step_ownPart hasks h hinput hstep
    rcases hown : ownPart owner user input with _ | part
    · rw [hown] at hpart
      obtain rfl : w₁ = w := hpart
      rw [List.filterMap_cons_none hown]
      exact hrest
    · rw [hown] at hpart
      rw [List.filterMap_cons_some hown, Transition.run_cons]
      exact Option.bind_eq_some_iff.mpr ⟨w₁, hpart, hrest⟩

/-- A session that asks for the jobs of its user is isolated. -/
lemma isolated_of_asks (huser : s.username = some user) (hasks : Asks s user) :
    Isolated s user where
  own _ _ hreach := (mine_of_reach huser hasks hreach).shown
  silent _ _ hreach := (mine_of_reach huser hasks hreach).silent
  blind owner inputs inputs' w w' hserves hserves' hsame hrun hrun' := by
    have h := run_ownPart huser hasks mine_init hserves hrun
    have h' := run_ownPart huser hasks mine_init hserves' hrun'
    rw [hsame, h'] at h
    rw [Option.some.inj h]

/-! ### Which names are isolated -/

/-- A name that is read as it is.  Windows has names that are not. -/
structure ReadAsItIs (name : String) : Prop where
  separator : '&' ∉ name.toList
  fragment : '#' ∉ name.toList
  /-- No percent sign before two hexadecimal digits. -/
  code : UrlQuery.hasCode name.toList = false
  lastSpace : name.toList.getLast? ≠ some ' '

lemma plain_iff {name : String} (hname : windowsAllows name) :
    UrlQuery.Plain name.toList ↔ ReadAsItIs name := by
  constructor
  · rintro ⟨hseparator, hfragment, -, -, hcode, hend⟩
    exact ⟨hseparator, hfragment, hcode, fun h => absurd (hend ' ' h) (by decide)⟩
  · rintro ⟨hseparator, hfragment, hcode, hlast⟩
    refine ⟨hseparator, hfragment, fun hmem => ?_, fun c hc => ?_, hcode, fun c hc => ?_⟩
    · exact (hname.2 '+' hmem).1 (by decide)
    · have hprint := (hname.2 c hc).2
      unfold UrlQuery.isBreak
      simp only [Bool.or_eq_false_iff, decide_eq_false_iff_not]
      refine ⟨⟨?_, ?_⟩, ?_⟩ <;>
      · rintro rfl
        revert hprint
        decide
    · have hprint := (hname.2 c (List.mem_of_getLast? hc)).2
      have hne : c.toNat ≠ 0x20 := by
        intro hspace
        refine hlast (hc.trans (congrArg some ?_))
        rw [← Char.ofNat_toNat c, hspace]
      simp only [UrlQuery.isBlankEnd, decide_eq_false_iff_not]
      omega

/-- A job of the user whose name is read instead. -/
def foreignJob (name : String) : StoredJob := ⟨"job", "printer", .queued, some name, 0⟩

/-- The session of a name that is not plain shows a job of somebody else. -/
lemma not_isolated (hparams : Documented s.params) (huser : s.username = some user)
    (hname : windowsAllows user) (hplain : ¬ UrlQuery.Plain user.toList) :
    ¬ Isolated s user := by
  intro hisolated
  obtain ⟨url, other, limit, hurl, hshort, hlimit, hjobs⟩ := getJobs_of_not_plain hparams
    s.port (fun h => (hname.2 '=' h).1 (by decide))
    (fun h => (hname.2 '+' h).1 (by decide)) hplain
  let w₁ : World := { World.init with tracker := { JobTracker.new with filter := .user user } }
  let w₂ : World := { w₁ with
    tracker := w₁.tracker.addAll 0 (getJobs (s.params url) [foreignJob other])
    phase := .opening }
  let owner : String → Option String := fun _ => some other
  have hdetected : (tray s).step World.init (.status (.ok "server")) = some w₁ := by
    have hclient : ("server" : String) ≠ "client" := by decide
    simp only [tray, Session.step, World.detect, huser, if_neg hclient]
    rfl
  have hfetched : (tray s).step w₁ (.fetched 0 (some [foreignJob other])) = some w₂ := by
    have hphase : w₁.phase = .fetching := rfl
    have hurl₁ : jobsUrl s.port w₁.tracker.filter = some url := hurl
    simp only [tray, Session.step, hphase, hurl₁]
    rfl
  have hreach : (tray s).Reach (fun _ input _ => Serves owner input) w₂ := by
    have h₁ : (tray s).Reach (fun _ input _ => Serves owner input) World.init :=
      Transition.Reach.init
    refine (h₁.move ⟨_, hdetected, ?_⟩).move ⟨_, hfetched, ?_⟩
    · intro h
      exact absurd (Except.ok.inj h) (by decide)
    · intro job hjob
      obtain rfl : job = foreignJob other := by simpa using hjob
      rfl
  have hshown : "job" ∈ w₂.shown := by
    have hkept : getJobs (s.params url) [foreignJob other] = [(foreignJob other).toApi] := by
      rw [hjobs]
      obtain ⟨n, rfl⟩ := Nat.exists_eq_succ_of_ne_zero (Nat.pos_iff_ne_zero.mp hlimit)
      simp [foreignJob]
    refine World.mem_shown.mpr (.inl ?_)
    change "job" ∈ (w₁.tracker.addAll 0 (getJobs (s.params url) [foreignJob other])).jobs
    rw [hkept]
    simp [JobTracker.addAll, JobTracker.addJob, JobTracker.jobs, maxRecentJobs, ApiJob.toRecent,
      StoredJob.toApi, foreignJob]
  have hown := hisolated.own owner w₂ hreach "job" hshown
  have hlen : other.toList.length = user.toList.length := by
    have h : other.toList.map Char.toLower = user.toList.map Char.toLower := by
      simpa [owns, owner, eqIgnoreAsciiCase] using hown
    simpa using congrArg List.length h
  omega

/-- A session on a server is isolated exactly if the name of its user is read as it is. -/
theorem isolated_iff (hparams : Documented s.params) (huser : s.username = some user)
    (hname : windowsAllows user) : Isolated s user ↔ ReadAsItIs user := by
  constructor
  · intro hisolated
    by_contra hread
    exact not_isolated hparams huser hname (fun h => hread ((plain_iff hname).mp h)) hisolated
  · intro hread
    exact isolated_of_asks huser fun url jobs hurl =>
      getJobs_of_plain hparams ((plain_iff hname).mpr hread) hurl jobs

/-- What the libraries do, as a function. -/
def documentedParams (url : String) : List (String × String) :=
  UrlQuery.fields (UrlQuery.query url.toList)

theorem isolated_iff_alice :
    Isolated ⟨9120, some "alice", documentedParams⟩ "alice" ↔ ReadAsItIs "alice" :=
  isolated_iff (fun _ => rfl) rfl (by decide)

/-- The user `A&B` is shown the jobs of the user `A`. -/
theorem not_always_isolated :
    ¬ ∀ (s : Session) (user : String), Documented s.params → s.username = some user →
      windowsAllows user → Isolated s user := by
  intro h
  have hname : windowsAllows "A&B" := by decide
  refine not_isolated (s := ⟨9120, some "A&B", documentedParams⟩) (fun _ => rfl) rfl hname
    (fun hplain => hplain.separator (by decide)) (h _ _ (fun _ => rfl) rfl hname)

end Tray

end DevBridge
