import DevBridge.Journal.Ops

/-!
# What the operations of the journal do to the rows

One lemma for each operation gives every row after it.  Together they say that an operation
does one of three things to the jobs: it lets rows become later rows, it adds one row, or
(only `prune`) it drops final rows.
-/

namespace DevBridge

namespace Journal

variable {j j' : Journal} {now : Time}

/-! ### Inserts -/

lemma insert_fst_new {job : OdooJob} {refused : Option (String × String)} :
    (j.insert now job refused).1 = .new ↔ j.get job.job.id = none := by
  rw [get_of_odoo j job.pos.le]
  unfold insert
  cases h : j.deviceJobs.get? job.job.id <;> simp

/-- An insert adds the row of a job that has none, and changes nothing else. -/
lemma get_insert (j : Journal) (now : Time) (job : OdooJob)
    (refused : Option (String × String)) (id : ℤ) :
    (j.insert now job refused).2.get id =
      if id = job.job.id ∧ j.get id = none then
        some (newEntry (job.job.reread j.readFloat) refused now)
      else j.get id := by
  have hpos := job.pos
  by_cases hid : id < 0
  · have hne : id ≠ job.job.id := by omega
    simp only [hne, false_and, if_false]
    unfold insert
    split <;> simp [get_of_lan, hid]
  · rw [get_of_odoo _ (not_lt.mp hid), get_of_odoo _ (not_lt.mp hid)]
    unfold insert
    split
    · rename_i e he
      by_cases hne : id = job.job.id
      · subst hne
        simp [he]
      · simp [hne]
    · rename_i hnone
      simp only [Table.get?_insert, hnone, and_true]
      by_cases hne : id = job.job.id
      · subst hne
        simp [hnone]
      · simp [hne]

/-- A LAN insert adds a row under an id that was never given, or changes nothing. -/
lemma get_insertLanReceived {job : DeviceJob} {r : LanInserted}
    (h : j.insertLanReceived now job = some (r, j')) :
    (∃ id, r = .new id ∧ id = -(j.lanJobs.seq + 1) ∧ j'.lanJobs.seq = j.lanJobs.seq + 1 ∧
      j.get id = none ∧
      (∀ k, j'.get k =
        if k = id then some (j.lanRow now job (j.lanJobs.seq + 1)).entry else j.get k)) ∨
    ((∃ known, r = .known known) ∧ j' = j) := by
  unfold insertLanReceived at h
  rw [Option.bind_eq_some_iff] at h
  obtain ⟨kasaId, -, h⟩ := h
  split at h
  · rename_i rowId t ht
    simp only [Option.some.injEq, Prod.mk.injEq] at h
    obtain ⟨rfl, rfl⟩ := h
    obtain ⟨hid, hseq, hnone, hget⟩ := AutoTable.insert_some ht
    have hnn := j.lanJobs.seq_nonneg
    have hneg : lanJobId rowId < 0 := by simp only [lanJobId]; omega
    refine Or.inl ⟨_, rfl, by simp [lanJobId, hid], hseq, ?_, ?_⟩
    · rw [get_of_lan j hneg, lanJobId, neg_neg, hnone]
      rfl
    · intro k
      by_cases hk : k < 0
      · rw [get_of_lan _ hk, get_of_lan _ hk]
        simp only [hget, lanJobId]
        by_cases hkr : k = -rowId
        · simp [hkr]
        · have : -k ≠ rowId := by omega
          simp [hkr, this]
      · have hne : k ≠ lanJobId rowId := by omega
        rw [get_of_odoo _ (not_lt.mp hk), get_of_odoo _ (not_lt.mp hk), if_neg hne]
  · rw [Option.map_eq_some_iff] at h
    obtain ⟨known, -, h⟩ := h
    simp only [Prod.mk.injEq] at h
    exact Or.inr ⟨⟨known, h.1.symm⟩, h.2.symm⟩

lemma readFloat_insert (j : Journal) (now : Time) (job : OdooJob)
    (refused : Option (String × String)) :
    (j.insert now job refused).2.readFloat = j.readFloat := by
  unfold insert
  split <;> rfl

lemma readFloat_insertLanReceived {job : DeviceJob} {r : LanInserted}
    (h : j.insertLanReceived now job = some (r, j')) : j'.readFloat = j.readFloat := by
  unfold insertLanReceived at h
  obtain ⟨kasaId, -, h⟩ := Option.bind_eq_some_iff.mp h
  split at h
  · obtain ⟨-, rfl⟩ := Prod.mk.inj (Option.some.inj h)
    rfl
  · obtain ⟨known, -, h⟩ := Option.map_eq_some_iff.mp h
    obtain ⟨-, rfl⟩ := Prod.mk.inj h
    rfl

/-! ### Recovery, reports and card contact -/

lemma get_recoverAfterRestart (j : Journal) (now : Time) (id : ℤ) :
    (j.recoverAfterRestart now).get id = (j.get id).map (recoverRow now) := by
  by_cases hid : id < 0
  · rw [get_of_lan _ hid, get_of_lan _ hid]
    simp [recoverAfterRestart, Function.comp_def, LanJob.recover]
  · rw [get_of_odoo _ (not_lt.mp hid), get_of_odoo _ (not_lt.mp hid)]
    simp [recoverAfterRestart]

lemma get_markLanReported (j : Journal) (now : Time) (jobId : ℤ) (odooJobId : Option ℤ)
    (note : String) (id : ℤ) :
    (j.markLanReported now jobId odooJobId note).2.get id =
      (j.get id).map fun e =>
        if id = jobId ∧ id < 0 then (RowOp.markLanReported note).apply .lan now e else e := by
  have hupdate := get_updateLan j now (lanJobId jobId) (.markLanReported note) id
  have hiff : (-id = lanJobId jobId ∧ id < 0) ↔ (id = jobId ∧ id < 0) := by
    simp only [lanJobId, neg_inj]
  simp only [hiff] at hupdate
  rw [← hupdate]
  by_cases hid : id < 0
  · rw [get_of_lan _ hid, get_of_lan _ hid]
    simp only [markLanReported, AutoTable.get?_update, Option.map_map]
    congr 1
    funext r
    simp only [Function.comp_apply]
    split <;> simp
  · rw [get_of_odoo _ (not_lt.mp hid), get_of_odoo _ (not_lt.mp hid)]
    simp [markLanReported]

/-- A card contact that was journaled: the job was executing and never contacted, its row
carries the contact now, and the card row is new. -/
lemma cardContactOf_true {jobId amountMinor txType : ℤ} {terminalIp : String}
    {baselineSeq targetSeq : Option ℤ}
    (h : j.cardContactOf now jobId terminalIp amountMinor baselineSeq txType targetSeq =
      some (true, j')) :
    (∀ id, j'.get id =
      (j.get id).map fun e =>
        if id = jobId ∧ 0 < id then RowOp.cardContact.apply .odoo now e else e) ∧
    (∃ e, j.deviceJobs.get? jobId = some e ∧ e.state = .executing ∧
      e.deviceContactAt = none) ∧
    j.cardPayments.get? jobId = none ∧
    (∀ k, j'.cardPayments.get? k =
      if k = jobId then
        some {
          jobId, terminalIp, amountMinor, baselineSeq, contactAt := now,
          authorizedAt := none, transSeq := none, authResult := none, authAck := .none,
          authAckNote := none, endedAt := none, personReason := none, txType, targetSeq }
      else j.cardPayments.get? k) ∧
    j'.cardBalances = j.cardBalances := by
  unfold cardContactOf at h
  split at h
  · simp at h
  · rename_i j₁ hu
    have h₁ : (j.updateOdoo now jobId .cardContact).1 = true := by rw [hu]
    have h₂ : (j.updateOdoo now jobId .cardContact).2 = j₁ := by rw [hu]
    have hcards : j₁.cardPayments = j.cardPayments := by rw [← h₂]; rfl
    split at h
    · simp at h
    · rename_i hnone
      simp only [Option.some.injEq, Prod.mk.injEq, true_and] at h
      subst h
      refine ⟨fun id => ?_, ?_, by rw [← hcards]; exact hnone, fun k => ?_, ?_⟩
      · rw [← get_updateOdoo, h₂]
        rfl
      · simp only [updateOdoo, Table.updates] at h₁
        cases he : j.deviceJobs.get? jobId with
        | none => simp [he] at h₁
        | some e =>
          simp only [he, Option.any_some, RowOp.guard, Bool.and_eq_true, beq_iff_eq,
            Option.isNone_iff_eq_none] at h₁
          exact ⟨e, rfl, h₁.2, h₁.1⟩
      · simp only [Table.get?_insert, hnone, and_true]
        rw [hcards]
      · rw [← h₂]
        rfl

lemma cardContactOf_false {jobId amountMinor txType : ℤ} {terminalIp : String}
    {baselineSeq targetSeq : Option ℤ}
    (h : j.cardContactOf now jobId terminalIp amountMinor baselineSeq txType targetSeq =
      some (false, j')) : j' = j := by
  unfold cardContactOf at h
  split at h
  · simp only [Option.some.injEq, Prod.mk.injEq, true_and] at h
    exact h.symm
  · split at h <;> simp at h

lemma readFloat_cardContactOf {jobId amountMinor txType : ℤ} {terminalIp : String}
    {baselineSeq targetSeq : Option ℤ} {b : Bool}
    (h : j.cardContactOf now jobId terminalIp amountMinor baselineSeq txType targetSeq =
      some (b, j')) : j'.readFloat = j.readFloat := by
  unfold cardContactOf at h
  split at h
  · obtain ⟨-, rfl⟩ := Prod.mk.inj (Option.some.inj h)
    rfl
  · rename_i j₁ hu
    have h₁ : (j.updateOdoo now jobId .cardContact).2 = j₁ := by rw [hu]
    split at h
    · cases h
    · obtain ⟨-, rfl⟩ := Prod.mk.inj (Option.some.inj h)
      rw [← h₁]
      rfl

/-! ### Pruning -/

lemma get_pruneDeviceJobs (j : Journal) (now : Time) (id : ℤ) :
    (j.pruneDeviceJobs now).get id =
      (j.get id).filter fun e => isLanJob id || !pruned now e := by
  by_cases hid : id < 0
  · rw [get_of_lan _ hid, get_of_lan _ hid]
    have : isLanJob id = true := by simpa using hid
    simp only [pruneDeviceJobs, this, Bool.true_or]
    cases j.lanJobs.get? (-id) <;> rfl
  · rw [get_of_odoo _ (not_lt.mp hid), get_of_odoo _ (not_lt.mp hid)]
    have : isLanJob id = false := by simpa using hid
    simp only [pruneDeviceJobs, Table.get?_keep, this, Bool.false_or]

lemma get_pruneLanJobs (j : Journal) (now : Time) (id : ℤ) :
    (j.pruneLanJobs now).get id =
      (j.get id).filter fun e => !isLanJob id || !pruned now e := by
  by_cases hid : id < 0
  · rw [get_of_lan _ hid, get_of_lan _ hid]
    have : isLanJob id = true := by simpa using hid
    simp only [pruneLanJobs, AutoTable.get?_keep, this, Bool.not_true, Bool.false_or]
    cases j.lanJobs.get? (-id) with
    | none => rfl
    | some r => cases hp : pruned now r.entry <;> simp [Option.filter, hp]
  · rw [get_of_odoo _ (not_lt.mp hid), get_of_odoo _ (not_lt.mp hid)]
    have : isLanJob id = false := by simpa using hid
    simp only [pruneLanJobs, this, Bool.not_false, Bool.true_or]
    cases j.deviceJobs.get? id <;> rfl

/-- Some rows that `prune` may delete are gone; no row changed. -/
def Pruned (now : Time) (j j' : Journal) : Prop :=
  ∀ id, j'.get id = j.get id ∨
    j'.get id = none ∧ ∃ e, j.get id = some e ∧ pruned now e = true

lemma Pruned.refl (j : Journal) : Pruned now j j := fun _ => Or.inl rfl

lemma Pruned.trans {a b c : Journal} (h : Pruned now a b) (h' : Pruned now b c) :
    Pruned now a c := fun id => by
  rcases h' id with hc | ⟨hc, e, he, hp⟩
  · rcases h id with hb | ⟨hb, e, he, hp⟩
    · exact Or.inl (hc.trans hb)
    · exact Or.inr ⟨hc.trans hb, e, he, hp⟩
  · rcases h id with hb | ⟨hb, -⟩
    · exact Or.inr ⟨hc, e, hb ▸ he, hp⟩
    · rw [hb] at he
      cases he

lemma Pruned.of_filter {p : JournalEntry → Bool} (hp : ∀ e, p e = false → pruned now e = true)
    {id : ℤ} (h : j'.get id = (j.get id).filter p) :
    j'.get id = j.get id ∨
      j'.get id = none ∧ ∃ e, j.get id = some e ∧ pruned now e = true := by
  rw [h]
  cases he : j.get id with
  | none => exact Or.inl rfl
  | some e =>
    cases hpe : p e with
    | false => exact Or.inr ⟨by simp [Option.filter, hpe], e, rfl, hp e hpe⟩
    | true => exact Or.inl (by simp [Option.filter, hpe])

/-- What each statement of `prune` respects relates the journal to the pruned one, however many
statements succeed. -/
lemma prune_relates {R : Journal → Journal → Prop} (hrefl : ∀ j, R j j)
    (htrans : ∀ a b c, R a b → R b c → R a c)
    (hstatement : ∀ s ∈ pruneStatements now, ∀ j, R j (s j)) (j : Journal) (n : ℕ) :
    R j (j.prune now n) := by
  have hfold : ∀ l : List (Journal → Journal), (∀ s ∈ l, ∀ j, R j (s j)) →
      ∀ j, R j (l.foldl (fun j s => s j) j) := by
    intro l
    induction l with
    | nil => exact fun _ j => hrefl j
    | cons s l ih =>
      intro hl j
      exact htrans _ _ _ (hl s (by simp) j) (ih (fun s hs => hl s (by simp [hs])) (s j))
  exact hfold _ (fun s hs => hstatement s (List.mem_of_mem_take hs)) j

lemma readFloat_prune (j : Journal) (now : Time) (n : ℕ) :
    (j.prune now n).readFloat = j.readFloat := by
  refine prune_relates (R := fun a b => b.readFloat = a.readFloat) (fun _ => rfl)
    (fun _ _ _ h h' => h'.trans h) (fun s hs j => ?_) j n
  simp only [pruneStatements, List.mem_cons, List.not_mem_nil, or_false] at hs
  rcases hs with rfl | rfl | rfl | rfl <;> rfl

/-- `prune` deletes only final rows that were acked, and changes no row. -/
lemma prune_pruned (j : Journal) (now : Time) (n : ℕ) : Pruned now j (j.prune now n) := by
  refine prune_relates Pruned.refl (fun _ _ _ => Pruned.trans) ?_ j n
  intro s hs j
  simp only [pruneStatements, List.mem_cons, List.not_mem_nil, or_false] at hs
  rcases hs with rfl | rfl | rfl | rfl
  · exact fun id => Pruned.of_filter (by simp) (get_pruneDeviceJobs j now id)
  · exact fun id => Pruned.of_filter (by simp) (get_pruneLanJobs j now id)
  · exact Pruned.refl j
  · exact Pruned.refl j

end Journal

/-! ### The three things an operation can do to the jobs -/

/-- Rows become later rows; none is added, none is dropped. -/
def RowsLater (j j' : Journal) : Prop :=
  ∀ id, (j.get id = none ∧ j'.get id = none) ∨
    ∃ e e', j.get id = some e ∧ j'.get id = some e' ∧ RowLater e e'

/-- One row is added, that of a fresh job. -/
def RowAdded (j j' : Journal) (id : ℤ) (e : JournalEntry) : Prop :=
  j.get id = none ∧ ∀ k, j'.get k = if k = id then some e else j.get k

/-- Final rows are dropped. -/
def RowsDropped (j j' : Journal) : Prop :=
  ∀ id, j'.get id = j.get id ∨
    j'.get id = none ∧ ∃ e, j.get id = some e ∧ e.state.isFinal = true ∧ e.acked = true

namespace RowsLater

variable {j j' : Journal} {now : Time}

lemma refl (j : Journal) : RowsLater j j := fun id => by
  cases h : j.get id with
  | none => exact Or.inl ⟨rfl, rfl⟩
  | some e => exact Or.inr ⟨e, e, rfl, rfl, RowLater.refl e⟩

/-- A change of the rows by a function that makes later rows. -/
lemma of_map {f : ℤ → JournalEntry → JournalEntry} (hf : ∀ id e, RowLater e (f id e))
    (h : ∀ id, j'.get id = (j.get id).map (f id)) : RowsLater j j' := fun id => by
  rw [h]
  cases j.get id with
  | none => exact Or.inl ⟨rfl, rfl⟩
  | some e => exact Or.inr ⟨e, f id e, rfl, rfl, hf id e⟩

lemma of_get_eq (h : ∀ id, j'.get id = j.get id) : RowsLater j j' :=
  of_map (f := fun _ e => e) (fun _ e => RowLater.refl e) fun id => by simp [h]

lemma updateRow (j : Journal) (now : Time) (jobId : ℤ) (op : RowOp) :
    RowsLater j (j.updateRow now jobId op).2 :=
  of_map (fun id e => by
    split
    · exact apply_later _ now op e
    · exact RowLater.refl e) (Journal.get_updateRow j now jobId op)

lemma updateOdoo (j : Journal) (now : Time) (row : ℤ) (op : RowOp) :
    RowsLater j (j.updateOdoo now row op).2 :=
  of_map (fun id e => by
    split
    · exact apply_later _ now op e
    · exact RowLater.refl e) (Journal.get_updateOdoo j now row op)

lemma markLanReported (j : Journal) (now : Time) (jobId : ℤ) (odooJobId : Option ℤ)
    (note : String) : RowsLater j (j.markLanReported now jobId odooJobId note).2 :=
  of_map (fun id e => by
    split
    · exact apply_later _ now _ e
    · exact RowLater.refl e) (Journal.get_markLanReported j now jobId odooJobId note)

lemma recoverAfterRestart (j : Journal) (now : Time) :
    RowsLater j (j.recoverAfterRestart now) :=
  of_map (fun _ e => recoverRow_later now e) (Journal.get_recoverAfterRestart j now)

lemma cardContactOf {jobId amountMinor txType : ℤ} {terminalIp : String}
    {baselineSeq targetSeq : Option ℤ} {b : Bool}
    (h : j.cardContactOf now jobId terminalIp amountMinor baselineSeq txType targetSeq =
      some (b, j')) : RowsLater j j' := by
  cases b with
  | false =>
    rw [Journal.cardContactOf_false h]
    exact refl j
  | true =>
    exact of_map (fun id e => by
      split
      · exact apply_later _ now _ e
      · exact RowLater.refl e) (Journal.cardContactOf_true h).1

/-- The row of a job after the change is a later one. -/
lemma later {id : ℤ} {e e' : JournalEntry} (h : RowsLater j j') (he : j.get id = some e)
    (he' : j'.get id = some e') : RowLater e e' := by
  rcases h id with ⟨h1, -⟩ | ⟨a, b, h1, h2, hl⟩
  · rw [h1] at he
    cases he
  · rw [h1] at he
    rw [h2] at he'
    cases he
    cases he'
    exact hl

end RowsLater

lemma RowAdded.insert {j : Journal} {now : Time} {job : OdooJob}
    {refused : Option (String × String)} (h : (j.insert now job refused).1 = .new) :
    RowAdded j (j.insert now job refused).2 job.job.id
      (newEntry (job.job.reread j.readFloat) refused now) := by
  rw [Journal.insert_fst_new] at h
  refine ⟨h, fun k => ?_⟩
  rw [Journal.get_insert]
  by_cases hk : k = job.job.id
  · subst hk
    simp [h]
  · simp [hk]

lemma Journal.insert_known_eq {j : Journal} {now : Time} {job : OdooJob}
    {refused : Option (String × String)} {e : JournalEntry}
    (h : (j.insert now job refused).1 = .known e) : (j.insert now job refused).2 = j := by
  unfold Journal.insert at h ⊢
  split at h
  · rfl
  · simp at h

lemma RowsDropped.prune (j : Journal) (now : Time) (n : ℕ) :
    RowsDropped j (j.prune now n) := fun id => by
  rcases Journal.prune_pruned j now n id with h | ⟨h, e, he, hp⟩
  · exact Or.inl h
  · refine Or.inr ⟨h, e, he, ?_⟩
    simp only [pruned, Bool.and_eq_true] at hp
    exact ⟨hp.1.1.2, hp.1.1.1⟩

end DevBridge
