import DevBridge.Journal.Row
import DevBridge.Lib.Table
import DevBridge.Text

/-!
# The ledger of the label lines

Odoo returns the same label lines until they are acknowledged, so the client keeps a durable
row for every line: `sending` before its bytes reach the spooler, `done` once there is a
verdict (a printed quantity and perhaps an error), with a mark whether Odoo has answered the
acknowledgement of that verdict.

Each operation below is one transaction of the source.  Its effect is given once, as the row
of every line after it; nothing else about the table is used.
-/

namespace DevBridge

namespace Labels

/-- The text of a line that a previous process left in the middle of a print. -/
def interruptedReason : String :=
  "interrupted: devbridge client restarted before print verification - check the printer, " ++
    "reprint manually if missing"

def pruneAfterDays : ℕ := 90

/-- Acked rows that are older than this are pruned. -/
def pruneAfter : Time := pruneAfterDays * (24 * 60 * 60 * 10 ^ 9)

inductive LineState where
  | sending
  | done
deriving DecidableEq, Repr

/-- Where the ack of a `done` line stands. -/
inductive AckState where
  /-- Not yet accepted by Odoo: it is sent in every cycle. -/
  | owed
  /-- Odoo stored the verdict. -/
  | accepted
  /-- Odoo did not store the verdict. -/
  | refused
deriving DecidableEq, Repr

def ackNoteOk : String := "ok"

def ackNoteDuplicate : String := "duplicate"

/-- The prefix of the note of a refused ack. -/
def ackNoteRefusedPrefix : String := "refused: "

/-- A row of `odoo_lines`, without its key. -/
structure LineRow where
  batchId : ℤ
  state : LineState
  printedQty : ℤ
  error : Option String
  acked : Bool
  /-- Its bytes were handed to the spooler. -/
  sent : Bool
  ackNote : Option String
  updatedAt : Time
deriving DecidableEq, Repr

def ackState (acked : Bool) (note : Option String) : AckState :=
  match acked, note with
  | false, _ => .owed
  | true, some note => if startsWith note ackNoteRefusedPrefix then .refused else .accepted
  | true, none => .accepted

/-- A row as the source reads it. -/
structure LedgerEntry where
  lineId : ℤ
  batchId : ℤ
  state : LineState
  printedQty : ℤ
  error : Option String
  ack : AckState
  sent : Bool
deriving DecidableEq, Repr

def rowToEntry (lineId : ℤ) (r : LineRow) : LedgerEntry where
  lineId := lineId
  batchId := r.batchId
  state := r.state
  printedQty := r.printedQty
  error := r.error
  ack := ackState r.acked r.ackNote
  sent := r.sent

lemma ackState_eq_owed {acked : Bool} {note : Option String} :
    ackState acked note = .owed ↔ acked = false := by
  rcases acked with _ | _
  · simp [ackState]
  · rcases note with _ | note
    · simp [ackState]
    · simp only [ackState, Bool.true_eq_false, iff_false]
      split <;> simp

abbrev Ledger := Table ℤ LineRow

namespace Ledger

/-- The row of a line that is about to be spooled. -/
def sendingRow (now : Time) (batchId : ℤ) : LineRow where
  batchId := batchId
  state := .sending
  printedQty := 0
  error := none
  acked := false
  sent := true
  ackNote := none
  updatedAt := now

/-- The row of a line that was rejected before any send. -/
def resultRow (now : Time) (batchId printedQty : ℤ) (error : Option String) : LineRow where
  batchId := batchId
  state := .done
  printedQty := printedQty
  error := error
  acked := false
  sent := false
  ackNote := none
  updatedAt := now

/-- A verdict, and its ack is owed. -/
def setResult (now : Time) (printedQty : ℤ) (error : Option String) (r : LineRow) : LineRow :=
  { r with
    state := .done
    printedQty := printedQty
    error := error
    acked := false
    ackNote := none
    updatedAt := now }

/-- An interrupted line; its `ack_note` is left as it is. -/
def setInterrupted (now : Time) (r : LineRow) : LineRow :=
  { r with
    state := .done
    printedQty := 0
    error := some interruptedReason
    acked := false
    updatedAt := now }

def get (l : Ledger) (lineId : ℤ) : Option LedgerEntry :=
  (l.get? lineId).map (rowToEntry lineId)

/-- All lines or none: a line that is already recorded is an error. -/
def markSending (now : Time) (batchId : ℤ) : List ℤ → Ledger → Option Ledger
  | [], l => some l
  | lineId :: rest, l =>
    match l.get? lineId with
    | some _ => none
    | none => markSending now batchId rest (l.insert lineId (sendingRow now batchId))

def recordResult (now : Time) (batchId lineId printedQty : ℤ) (error : Option String)
    (l : Ledger) : Ledger :=
  match l.get? lineId with
  | none => l.insert lineId (resultRow now batchId printedQty error)
  | some _ => l.update lineId (fun _ => true) (setResult now printedQty error)

def markAcked (now : Time) (lineId : ℤ) (note : String) (l : Ledger) : Ledger :=
  l.update lineId (fun _ => true) fun r =>
    { r with acked := true, ackNote := some note, updatedAt := now }

def reopenAck (lineId : ℤ) (l : Ledger) : Ledger :=
  l.update lineId (fun r => r.state == .done) fun r => { r with acked := false }

def forget (lineId : ℤ) (l : Ledger) : Ledger :=
  l.keep fun id _ => id != lineId

/-- `ORDER BY batch_id, line_id`. -/
def ackBefore (a b : LedgerEntry) : Bool :=
  decide (a.batchId < b.batchId ∨ a.batchId = b.batchId ∧ a.lineId ≤ b.lineId)

/-- A verdict whose ack is owed. -/
def isOwed (r : LineRow) : Bool := r.state == .done && !r.acked

def pendingAcks (l : Ledger) : List LedgerEntry :=
  ((l.select fun _ r => isOwed r).map fun x => rowToEntry x.1 x.2).insertionSort
    fun a b => ackBefore a b = true

/-- Start-up recovery; the answer names the interrupted lines. -/
def recoverInterrupted (now : Time) (l : Ledger) : List ℤ × Ledger :=
  ((l.select fun _ r => r.state == .sending).map Prod.fst,
    l.map fun _ r => if r.state = .sending then setInterrupted now r else r)

/-- `note LIKE 'refused: %'`, which does not look at the case of ASCII letters. -/
def likeRefused (note : String) : Bool :=
  ackNoteRefusedPrefix.toList.isPrefixOf (note.toList.map Char.toLower)

/-- Acked, old, and not refused. -/
def isPruned (cutoff : Time) (r : LineRow) : Bool :=
  r.acked && decide (r.updatedAt < cutoff) && !r.ackNote.any likeRefused

/-- The lines whose rows `prune` drops. -/
def pruned (now : Time) (l : Ledger) : List ℤ :=
  (l.select fun _ r => isPruned (now - pruneAfter) r).map Prod.fst

def prune (now : Time) (l : Ledger) : Ledger :=
  l.keep fun _ r => !isPruned (now - pruneAfter) r

/-! ### The row of a line after an operation -/

variable {l : Ledger} {now : Time} {batchId lineId printedQty : ℤ} {error : Option String}

lemma get?_markSending {ids : List ℤ} {l' : Ledger}
    (h : markSending now batchId ids l = some l') (id : ℤ) :
    l'.get? id = if id ∈ ids then some (sendingRow now batchId) else l.get? id := by
  induction ids generalizing l with
  | nil =>
    obtain rfl : l = l' := Option.some.inj h
    simp
  | cons lineId rest ih =>
    rcases hl : l.get? lineId with _ | r
    · simp only [markSending, hl] at h
      have hget := ih h
      by_cases hid : id = lineId
      · subst hid
        by_cases hrest : id ∈ rest
        · simp [hget, hrest]
        · simp [hget, hrest, Table.get?_insert_self _ _ _ hl]
      · simp [hget, hid, Table.get?_insert_of_ne]
    · simp [markSending, hl] at h

/-- The lines of a transaction that succeeds were not recorded, and each occurs once. -/
lemma markSending_new {ids : List ℤ} {l' : Ledger}
    (h : markSending now batchId ids l = some l') :
    ids.Nodup ∧ ∀ id ∈ ids, l.get? id = none := by
  induction ids generalizing l with
  | nil => exact ⟨List.nodup_nil, fun _ h => by cases h⟩
  | cons lineId rest ih =>
    rcases hl : l.get? lineId with _ | r
    · simp only [markSending, hl] at h
      obtain ⟨hnodup, hnew⟩ := ih h
      have hself : lineId ∉ rest := fun hmem => by
        have hnone := hnew lineId hmem
        rw [Table.get?_insert_self _ _ _ hl] at hnone
        cases hnone
      refine ⟨List.nodup_cons.mpr ⟨hself, hnodup⟩, fun id hid => ?_⟩
      rcases List.mem_cons.mp hid with rfl | hid
      · exact hl
      · have hne : id ≠ lineId := fun heq => hself (heq ▸ hid)
        have hnone := hnew id hid
        rwa [Table.get?_insert_of_ne _ _ hne] at hnone
    · simp [markSending, hl] at h

lemma get?_recordResult_of_ne {id : ℤ} (h : id ≠ lineId) :
    (recordResult now batchId lineId printedQty error l).get? id = l.get? id := by
  unfold recordResult
  split
  · exact Table.get?_insert_of_ne _ _ h
  · exact Table.get?_update_of_ne _ _ _ h

/-- The verdict of a line: what its row says about sending stays. -/
lemma get?_recordResult_self :
    (recordResult now batchId lineId printedQty error l).get? lineId =
      some (match l.get? lineId with
        | none => resultRow now batchId printedQty error
        | some r => setResult now printedQty error r) := by
  unfold recordResult
  rcases hl : l.get? lineId with _ | r
  · exact Table.get?_insert_self _ _ _ hl
  · simp [hl]

lemma get?_forget (lineId id : ℤ) :
    (forget lineId l).get? id = if id = lineId then none else l.get? id := by
  rw [forget, Table.get?_keep]
  by_cases h : id = lineId
  · simp [h]
  · have hid : (id != lineId) = true := bne_iff_ne.mpr h
    rcases l.get? id with _ | r <;> simp [h, hid, Option.filter]

lemma get?_recoverInterrupted (id : ℤ) :
    (recoverInterrupted now l).2.get? id =
      (l.get? id).map fun r => if r.state = .sending then setInterrupted now r else r := by
  simp [recoverInterrupted]

lemma mem_pruned {id : ℤ} :
    id ∈ pruned now l ↔ ∃ r, l.get? id = some r ∧ isPruned (now - pruneAfter) r = true := by
  simp only [pruned, List.mem_map, Prod.exists, Table.mem_select, exists_and_right, exists_eq_right]

lemma get?_prune (id : ℤ) :
    (prune now l).get? id = if id ∈ pruned now l then none else l.get? id := by
  rw [prune, Table.get?_keep]
  rcases hl : l.get? id with _ | r
  · simp [Option.filter]
  · by_cases hp : isPruned (now - pruneAfter) r = true
    · have hmem : id ∈ pruned now l := mem_pruned.mpr ⟨r, hl, hp⟩
      simp [hmem, hp, Option.filter]
    · have hmem : id ∉ pruned now l := fun hmem => by
        obtain ⟨r', hr', hp'⟩ := mem_pruned.mp hmem
        obtain rfl : r = r' := Option.some.inj (hl.symm.trans hr')
        exact hp hp'
      simp [hmem, hp, Option.filter]

/-! ### What is owed -/

/-- The entries that a flush takes are the owed rows. -/
lemma mem_pendingAcks {e : LedgerEntry} :
    e ∈ pendingAcks l ↔ ∃ r, l.get? e.lineId = some r ∧ isOwed r = true ∧
      e = rowToEntry e.lineId r := by
  unfold pendingAcks
  rw [List.mem_insertionSort]
  simp only [List.mem_map, Prod.exists, Table.mem_select]
  constructor
  · rintro ⟨id, r, ⟨hr, howed⟩, rfl⟩
    exact ⟨r, hr, howed, rfl⟩
  · rintro ⟨r, hr, howed, he⟩
    exact ⟨e.lineId, r, ⟨hr, howed⟩, he.symm⟩

/-- Each line is owed once. -/
lemma pendingAcks_nodup : ((pendingAcks l).map LedgerEntry.lineId).Nodup := by
  have hperm : ((pendingAcks l).map LedgerEntry.lineId).Perm
      ((l.select fun _ r => isOwed r).map Prod.fst) := by
    refine ((List.perm_insertionSort _ _).map _).trans ?_
    rw [List.map_map]
    exact List.Perm.refl _
  refine hperm.nodup_iff.mpr ?_
  have hsorted : (l.select fun _ r => isOwed r).Pairwise fun x y => x.1 < y.1 :=
    l.sorted.filter _
  exact List.pairwise_map.mpr (hsorted.imp fun h => ne_of_lt h)

/-- An owed line has one entry, with its verdict. -/
lemma pendingAcks_of {id : ℤ} {r : LineRow} (hr : l.get? id = some r)
    (howed : isOwed r = true) :
    (pendingAcks l).filter (fun e => e.lineId = id) = [rowToEntry id r] := by
  have hall : ∀ e ∈ (pendingAcks l).filter (fun e => e.lineId = id), e = rowToEntry id r := by
    intro e he
    obtain ⟨hmem, hid⟩ := List.mem_filter.mp he
    obtain ⟨r', hr', -, heq⟩ := mem_pendingAcks.mp hmem
    rw [of_decide_eq_true hid] at hr' heq
    obtain rfl := Option.some.inj (hr.symm.trans hr')
    exact heq
  have hmem : rowToEntry id r ∈ (pendingAcks l).filter (fun e => e.lineId = id) :=
    List.mem_filter.mpr ⟨mem_pendingAcks.mpr ⟨r, hr, howed, rfl⟩, by simp [rowToEntry]⟩
  have hnodup : ((pendingAcks l).filter (fun e => e.lineId = id)).Nodup :=
    (List.Nodup.of_map _ pendingAcks_nodup).filter _
  rcases hf : (pendingAcks l).filter (fun e => e.lineId = id) with _ | ⟨e, rest⟩
  · rw [hf] at hmem
    cases hmem
  · rw [hf] at hall hnodup
    obtain rfl := hall e List.mem_cons_self
    have hrest : rest = [] := List.eq_nil_iff_forall_not_mem.mpr fun e he =>
      (List.nodup_cons.mp hnodup).1 (hall e (List.mem_cons_of_mem _ he) ▸ he)
    rw [hf, hrest]

end Ledger

end Labels

end DevBridge
