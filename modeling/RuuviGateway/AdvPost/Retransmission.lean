import RuuviGateway.AdvPost.AsyncComm
import RuuviGateway.AdvTable.Representation

/-!
# Reports of a transfer that did not start

`adv_post_do_retransmission` drains a retransmission list before it copies the
configuration and starts the request. If one of these later steps fails, the function
returns false with the list already empty.
-/

namespace RuuviGateway.AdvPost

open AdvTable General

variable {w : World} {env : Env} {ts : Bool} {target : AdvsTarget}

/-- The reports that wait in a retransmission list. -/
def pendingReports (k : ListNo) (t : Table) : List AdvReport :=
  (t.advReportsRetransmissionList k).map t.advReport

/-- Every report that waited before the call still waits after it. -/
def KeepsPending (target : AdvsTarget) (w w' : World) : Prop :=
  ∀ report ∈ pendingReports target.list w.table, report ∈ pendingReports target.list w'.table

/-- The steps that follow the draining of the list succeed. -/
def Env.requestStarts (env : Env) : Bool := env.gwCfgGetHttpCopy && env.httpPostAdvs

theorem doRetransmission_noBuffer (hbuf : env.reportsBufAllocated = false) :
    advPostDoRetransmission w env ts target.action = (w, false) := by
  simp [advPostDoRetransmission, hbuf]

theorem doRetransmission_result (hbuf : env.reportsBufAllocated = true) :
    (advPostDoRetransmission w env ts target.action).2 = env.requestStarts := by
  unfold advPostDoRetransmission Env.requestStarts
  rw [hbuf]
  cases target <;>
  · simp only [AdvsTarget.action, advPostRetransmitToHttp, advPostRetransmitAdvs, Bool.not_true,
      Bool.false_eq_true, if_false]
    cases env.gwCfgGetHttpCopy <;> rfl

/-- With a buffer at hand, the list is drained whatever follows. -/
theorem doRetransmission_table (hbuf : env.reportsBufAllocated = true) :
    (advPostDoRetransmission w env ts target.action).1.table =
      (advTableReadRetransmissionListAndClear target.list w.table).table := by
  unfold advPostDoRetransmission
  rw [hbuf]
  cases target <;>
  · simp only [AdvsTarget.action, advPostRetransmitToHttp, advPostRetransmitAdvs, Bool.not_true,
      Bool.false_eq_true, if_false]
    cases env.gwCfgGetHttpCopy <;> rfl

theorem pendingReports_drained {t : Table} (h : Invariant t) (k : ListNo) :
    pendingReports k (advTableReadRetransmissionListAndClear k t).table = [] := by
  rw [h.readAndClear_eq]
  simp [pendingReports, Table.withoutList]

/-- A call that fails keeps the pending reports exactly when it fails for lack of a buffer,
before the list is drained, or when there was nothing to lose. -/
theorem doRetransmission_keepsPending {history : List (Op × Outcome)} {w : World}
    (ht : advTable.FreeRun history w.table) (env : Env) (ts : Bool) (target : AdvsTarget) :
    ((advPostDoRetransmission w env ts target.action).2 = false →
      KeepsPending target w (advPostDoRetransmission w env ts target.action).1) ↔
    env.reportsBufAllocated = false ∨ env.requestStarts = true ∨
      pendingReports target.list w.table = [] := by
  have h := invariant_run ht
  cases hbuf : env.reportsBufAllocated with
  | false =>
    refine iff_of_true (fun _ => ?_) (.inl rfl)
    rw [doRetransmission_noBuffer hbuf]
    exact fun report hmem => hmem
  | true =>
    have hempty := pendingReports_drained h target.list
    rw [doRetransmission_result hbuf]
    simp only [KeepsPending, doRetransmission_table hbuf, hempty, List.not_mem_nil,
      Bool.true_eq_false, false_or]
    cases env.requestStarts with
    | true => simp
    | false =>
      simp only [forall_const, Bool.false_eq_true, false_or]
      exact List.eq_nil_iff_forall_not_mem.symm

/-- One report waits for the Ruuvi cloud. -/
def oneWaiting : World :=
  { World.initial 0 0 with table := ((samplePut 1).apply advTableInit).1 }

theorem doRetransmission_keepsPending_noBuffer :
    KeepsPending .ruuvi oneWaiting
      (advPostDoRetransmission oneWaiting { reportsBufAllocated := false } false
        AdvsTarget.ruuvi.action).1 :=
  (doRetransmission_keepsPending (w := oneWaiting) (.step .init trivial rfl)
    { reportsBufAllocated := false } false .ruuvi).mpr (.inl rfl) rfl

/-- The report is lost when the configuration cannot be copied. -/
theorem doRetransmission_losesPending :
    ¬∀ (history : List (Op × Outcome)) (w : World) (env : Env) (ts : Bool) (target : AdvsTarget),
      advTable.FreeRun history w.table →
      (advPostDoRetransmission w env ts target.action).2 = false →
      KeepsPending target w (advPostDoRetransmission w env ts target.action).1 := by
  intro hall
  have hkept := hall _ oneWaiting { gwCfgGetHttpCopy := false } false .ruuvi
    (.step .init trivial rfl) (by decide) (sampleReport 1) (by decide)
  exact absurd hkept (by decide)

end RuuviGateway.AdvPost
