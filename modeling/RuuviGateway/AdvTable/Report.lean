import Mathlib.Data.Fin.Basic
import Mathlib.Data.List.FinRange

/-!
# Advertisement reports

The record `adv_report_t` that the gateway keeps for every tag, with the MAC address
of the tag as its key. Counters and timestamps are the 32-bit values of the target.
-/

namespace RuuviGateway

abbrev macAddressNumBytes : ℕ := 6

structure MacAddressBin where
  mac : Vector UInt8 macAddressNumBytes
  deriving DecidableEq, Repr

abbrev gwCfgMaxNumSensors : ℕ := 100

end RuuviGateway

namespace RuuviGateway.AdvTable

abbrev maxAdvsTable : ℕ := gwCfgMaxNumSensors

abbrev advDataMaxLen : ℕ := 48

abbrev bleMaxRegularAdvDataLen : UInt8 := 31

/-- The four-bit fields that hold a `re_ca_uart_ble_phy_e`. -/
abbrev BlePhy := BitVec 4

structure AdvReport where
  timestamp : UInt32
  samplesCounter : UInt32
  tagMac : MacAddressBin
  rssi : Int8
  primaryPhy : BlePhy
  secondaryPhy : BlePhy
  chIndex : UInt8
  isCodedPhy : Bool
  txPower : Int8
  dataLen : UInt8
  dataBuf : Vector UInt8 advDataMaxLen
  deriving DecidableEq

/-- The all-zero report of a cleared memory area. -/
def AdvReport.zero : AdvReport where
  timestamp := 0
  samplesCounter := 0
  tagMac := ⟨Vector.replicate macAddressNumBytes 0⟩
  rssi := 0
  primaryPhy := 0
  secondaryPhy := 0
  chIndex := 0
  isCodedPhy := false
  txPower := 0
  dataLen := 0
  dataBuf := Vector.replicate advDataMaxLen 0

/-- The bytes of the advertisement, `data_buf[0 .. data_len)`. -/
def AdvReport.data (r : AdvReport) : List UInt8 :=
  r.dataBuf.toList.take r.dataLen.toNat

def advReportCalcHash (p : MacAddressBin) : UInt32 :=
  (List.finRange 3).foldl (fun hashVal (i : Fin 3) =>
    hashVal ||| (((p.mac.get (i.castAdd 3)).toUInt32 ^^^ (p.mac.get (i.natAdd 3)).toUInt32) <<<
      UInt32.ofNat (i.val * 8))) 0

def advTableCheckIfAdvMustBeDiscarded (adv prevAdv : AdvReport) : Bool :=
  if prevAdv.dataLen = adv.dataLen ∧
      prevAdv.dataBuf.toList.take adv.dataLen.toNat = adv.data then
    true
  else
    let isPrevExtAdv := decide (prevAdv.dataLen > bleMaxRegularAdvDataLen)
    let isNewExtAdv := decide (adv.dataLen > bleMaxRegularAdvDataLen)
    isPrevExtAdv && !isNewExtAdv

/-- A freed cell never makes the table discard a report with data. -/
theorem not_discarded_of_prevFree {adv prevAdv : AdvReport} (hadv : adv.dataLen ≠ 0)
    (hprev : prevAdv.dataLen = 0) : advTableCheckIfAdvMustBeDiscarded adv prevAdv = false := by
  simp [advTableCheckIfAdvMustBeDiscarded, hprev, Ne.symm hadv]

end RuuviGateway.AdvTable
