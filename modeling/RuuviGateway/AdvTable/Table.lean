import Mathlib.Logic.Function.Basic
import RuuviGateway.AdvTable.Report

/-!
# The advertisement table

One hundred cells are threaded through five intrusive lists: the buckets of a hash
table keyed by MAC address, three retransmission lists and a history list ordered by
the last update. The cells are modelled field by field, a pointer to a cell is its
index, and a list head is the list of the cells that it links. Every operation runs under
`gp_adv_reports_mutex`, hence as one step.
-/

namespace RuuviGateway.AdvTable

abbrev advTableHashSize : ℕ := 101

/-- A pointer to an element of `g_arr_of_adv_reports`. -/
abbrev Elem := Fin maxAdvsTable

/-- The three retransmission lists: `list1` for the Ruuvi cloud, `list2` for the custom
HTTP target and `list3` for MQTT. -/
inductive ListNo
  | list1
  | list2
  | list3
  deriving DecidableEq, Repr

structure Table where
  advReport : Elem → AdvReport
  isInHashTable : Elem → Bool
  isInRetransmissionList : ListNo → Elem → Bool
  advHashTable : Fin advTableHashSize → List Elem
  advReportsRetransmissionList : ListNo → List Elem
  advReportsHistList : List Elem
  /-- `TAILQ_LAST` of the history list never yields a null pointer. -/
  histNonempty : advReportsHistList ≠ []

def advTableInit : Table where
  advReport := fun _ => AdvReport.zero
  isInHashTable := fun _ => false
  isInRetransmissionList := fun _ _ => false
  advHashTable := fun _ => []
  advReportsRetransmissionList := fun _ => []
  advReportsHistList := List.finRange maxAdvsTable
  histNonempty := by decide

section HashTable

def hashIdx (mac : MacAddressBin) : Fin advTableHashSize :=
  Fin.ofNat advTableHashSize (advReportCalcHash mac).toNat

def advHashTableSearch (t : Table) (mac : MacAddressBin) : Option Elem :=
  (t.advHashTable (hashIdx mac)).find? fun elem => decide (mac = (t.advReport elem).tagMac)

def advHashTableAdd (t : Table) (elem : Elem) : Table :=
  let idx := hashIdx (t.advReport elem).tagMac
  { t with
    advHashTable := Function.update t.advHashTable idx (t.advHashTable idx ++ [elem])
    isInHashTable := Function.update t.isInHashTable elem true }

def advHashTableRemove (t : Table) (elem : Elem) : Table :=
  if t.isInHashTable elem then
    let idx := hashIdx (t.advReport elem).tagMac
    { t with
      advHashTable := Function.update t.advHashTable idx ((t.advHashTable idx).erase elem)
      isInHashTable := Function.update t.isInHashTable elem false }
  else t

end HashTable

section Put

def Table.setAdvReport (t : Table) (elem : Elem) (adv : AdvReport) : Table :=
  { t with advReport := Function.update t.advReport elem adv }

/-- The test and the `STAILQ_INSERT_TAIL` for one retransmission list. -/
def Table.insertRetransmission (t : Table) (elem : Elem) (k : ListNo) : Table :=
  if t.isInRetransmissionList k elem then t
  else
    { t with
      advReportsRetransmissionList := Function.update t.advReportsRetransmissionList k
        (t.advReportsRetransmissionList k ++ [elem])
      isInRetransmissionList := Function.update t.isInRetransmissionList k
        (Function.update (t.isInRetransmissionList k) elem true) }

/-- `TAILQ_REMOVE` followed by `TAILQ_INSERT_HEAD` on the history list. -/
def Table.moveToHistHead (t : Table) (elem : Elem) : Table :=
  { t with
    advReportsHistList := elem :: t.advReportsHistList.erase elem
    histNonempty := List.cons_ne_nil _ _ }

/-- The cell that a report of an unknown MAC takes: the last one of the history list. -/
def Table.lastElem (t : Table) : Elem :=
  t.advReportsHistList.getLast t.histNonempty

/-- The first half of `adv_table_put_unsafe`: store the report, and say in which cell
and whether `flag_updated` is set. -/
def advTableStore (t : Table) (adv : AdvReport) : Table × Elem × Bool :=
  match advHashTableSearch t adv.tagMac with
  | none =>
      let elem := t.lastElem
      let t := advHashTableRemove t elem
      let t := t.setAdvReport elem adv
      (advHashTableAdd t elem, elem, true)
  | some elem =>
      let prev := t.advReport elem
      if advTableCheckIfAdvMustBeDiscarded adv prev then
        (t.setAdvReport elem { prev with samplesCounter := prev.samplesCounter + 1 }, elem, false)
      else
        (t.setAdvReport elem { adv with samplesCounter := prev.samplesCounter + 1 }, elem, true)

/-- The second half of `adv_table_put_unsafe`, taken when `flag_updated` is set. -/
def advTableEnqueue (t : Table) (elem : Elem) : Table :=
  let t := t.insertRetransmission elem .list1
  let t := t.insertRetransmission elem .list2
  let t := t.insertRetransmission elem .list3
  t.moveToHistHead elem

def advTablePut (t : Table) (adv : AdvReport) : Table × Bool :=
  match advTableStore t adv with
  | (t, elem, true) => (advTableEnqueue t elem, true)
  | (t, _, false) => (t, false)

/-- The MAC whose cell a put recycles for another MAC. -/
def recycledBy (t : Table) (adv : AdvReport) : Option MacAddressBin :=
  match advHashTableSearch t adv.tagMac with
  | none => if t.isInHashTable t.lastElem then some (t.advReport t.lastElem).tagMac else none
  | some _ => none

end Put

section Read

/-- `STAILQ_REMOVE_HEAD` of the element at the head of a list, with its flag. -/
def Table.removeHead (t : Table) (k : ListNo) (elem : Elem) : Table :=
  { t with
    advReportsRetransmissionList := Function.update t.advReportsRetransmissionList k
      (t.advReportsRetransmissionList k).tail
    isInRetransmissionList := Function.update t.isInRetransmissionList k
      (Function.update (t.isInRetransmissionList k) elem false) }

/-- What a read of a retransmission list leaves: the table, the filled part of the
output table, and the element that was removed but did not fit. -/
structure Drain where
  table : Table
  reports : List AdvReport
  dropped : Option Elem

/-- The loop of `adv_table_read_retransmission_listN_and_clear_unsafe` along the list. -/
def drainLoop (k : ListNo) : List Elem → Table → List AdvReport → Drain
  | [], t, reports => ⟨t, reports, none⟩
  | elem :: rest, t, reports =>
      let t := t.removeHead k elem
      if reports.length ≥ maxAdvsTable then ⟨t, reports, some elem⟩
      else drainLoop k rest t (reports ++ [t.advReport elem])

def advTableReadRetransmissionListAndClear (k : ListNo) (t : Table) : Drain :=
  drainLoop k (t.advReportsRetransmissionList k) t []

def advTableReadRetransmissionList1AndClear : Table → Drain :=
  advTableReadRetransmissionListAndClear .list1

def advTableReadRetransmissionList2AndClear : Table → Drain :=
  advTableReadRetransmissionListAndClear .list2

def advTableReadRetransmissionList3AndClear : Table → Drain :=
  advTableReadRetransmissionListAndClear .list3

def advTableReadRetransmissionList3Head (t : Table) : Table × Option AdvReport :=
  match t.advReportsRetransmissionList .list3 with
  | [] => (t, none)
  | elem :: _ => (t.removeHead .list3 elem, some (t.advReport elem))

def advTableReadRetransmissionList3IsEmpty (t : Table) : Bool :=
  (t.advReportsRetransmissionList .list3).isEmpty

/-- The parameters of `adv_table_history_read`. -/
structure HistoryQuery where
  curTime : UInt32
  flagUseTimestamps : Bool
  filter : UInt32
  flagUseFilter : Bool

/-- The test of the history loop on the age of an entry. -/
def HistoryQuery.stopsAt (q : HistoryQuery) (r : AdvReport) : Bool :=
  if q.flagUseTimestamps then
    q.flagUseFilter && decide (q.curTime - r.timestamp > q.filter)
  else
    let deltaSec := (r.timestamp - q.filter).toInt32
    q.flagUseFilter && decide (deltaSec ≤ 0)

def historyLoop (t : Table) (q : HistoryQuery) : List Elem → List AdvReport → List AdvReport
  | [], reports => reports
  | elem :: rest, reports =>
      if reports.length ≥ maxAdvsTable then reports
      else if (t.advReport elem).dataLen = 0 then reports
      else if q.stopsAt (t.advReport elem) then reports
      else historyLoop t q rest (reports ++ [t.advReport elem])

def advTableHistoryRead (t : Table) (q : HistoryQuery) : List AdvReport :=
  historyLoop t q t.advReportsHistList []

def statisticsLoop : List Elem → Table → List AdvReport → Table × List AdvReport
  | [], t, reports => (t, reports)
  | elem :: rest, t, reports =>
      if reports.length ≥ maxAdvsTable then (t, reports)
      else if (t.advReport elem).timestamp = 0 then (t, reports)
      else
        statisticsLoop rest (t.setAdvReport elem { t.advReport elem with samplesCounter := 0 })
          (reports ++ [t.advReport elem])

def advTableStatisticsRead (t : Table) : Table × List AdvReport :=
  statisticsLoop t.advReportsHistList t []

end Read

section Clear

/-- The loop of `adv_retransmission_listN_clear_unsafe` along the list. -/
def retransmissionListClearLoop (k : ListNo) : List Elem → Table → Table
  | [], t => t
  | elem :: rest, t => retransmissionListClearLoop k rest (t.removeHead k elem)

def advRetransmissionListClear (k : ListNo) (t : Table) : Table :=
  retransmissionListClearLoop k (t.advReportsRetransmissionList k) t

/-- A report marked as free in the history list. -/
def AdvReport.freed (r : AdvReport) : AdvReport :=
  { r with timestamp := 0, samplesCounter := 0, dataLen := 0 }

def freeLoop : List Elem → Table → Table
  | [], t => t
  | elem :: rest, t => freeLoop rest (t.setAdvReport elem (t.advReport elem).freed)

def advTableClear (t : Table) : Table :=
  let t := advRetransmissionListClear .list1 t
  let t := advRetransmissionListClear .list2 t
  let t := advRetransmissionListClear .list3 t
  freeLoop t.advReportsHistList t

end Clear

section Operations

/-- The operations of the table, each with its arguments. -/
inductive Op
  | put (adv : AdvReport) (hadv : adv.dataLen ≠ 0)
  | readAndClear (k : ListNo)
  | readList3Head
  | historyRead (q : HistoryQuery)
  | statisticsRead
  | clear

inductive Result
  | updated (flag : Bool)
  | reports (reports : List AdvReport)
  | head (report : Option AdvReport)
  | cleared
  deriving DecidableEq

def Op.apply (t : Table) : Op → Table × Result
  | .put adv _ => let r := advTablePut t adv; (r.1, .updated r.2)
  | .readAndClear k =>
      let r := advTableReadRetransmissionListAndClear k t; (r.table, .reports r.reports)
  | .readList3Head => let r := advTableReadRetransmissionList3Head t; (r.1, .head r.2)
  | .historyRead q => (t, .reports (advTableHistoryRead t q))
  | .statisticsRead => let r := advTableStatisticsRead t; (r.1, .reports r.2)
  | .clear => (advTableClear t, .cleared)

end Operations

end RuuviGateway.AdvTable
