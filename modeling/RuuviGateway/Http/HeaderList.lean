import Mathlib.Data.List.DropRight
import RuuviGateway.General.Numerals
import RuuviGateway.Http.Headers

/-!
# The headers of a request

The headers are kept in the order in which they were set first. Their text is written in rounds,
each of which takes the headers that still fit into the buffer.
-/

namespace RuuviGateway.Http

open General

section Items

/-- `http_utils_trim_whitespace`. -/
def httpUtilsTrimWhitespace (s : Bytes) : Bytes := (s.dropWhile isSpace).rdropWhile isSpace

def Header.hasKey (key : Bytes) (item : Header) : Bool := strcasecmpEq item.key key

def httpHeaderGetItem (headers : List Header) (key : Bytes) : Option Header :=
  headers.find? (Header.hasKey key)

def httpHeaderGet (headers : List Header) (key : Bytes) : Option Bytes :=
  (httpHeaderGetItem headers key).map Header.value

def httpHeaderNewItem (headers : List Header) (key value : Bytes) : List Header :=
  headers ++ [⟨httpUtilsTrimWhitespace key, httpUtilsTrimWhitespace value⟩]

def httpHeaderDelete (headers : List Header) (key : Bytes) : List Header :=
  headers.eraseP (Header.hasKey key)

/-- The first header with the key gets the value. -/
def setItemValue (key value : Bytes) : List Header → List Header
  | [] => []
  | item :: items =>
      if item.hasKey key then { item with value := httpUtilsTrimWhitespace value } :: items
      else item :: setItemValue key value items

/-- `http_header_set`, where all allocations succeed. -/
def httpHeaderSet (headers : List Header) (key : Bytes) : Option Bytes → List Header
  | none => httpHeaderDelete headers key
  | some value =>
      if (httpHeaderGetItem headers key).isSome then setItemValue key value headers
      else httpHeaderNewItem headers key value

variable {headers : List Header} {key key' value : Bytes} {item : Header}

/-- No key stands twice, whatever the case of its letters. -/
def KeysDistinct (headers : List Header) : Prop :=
  (headers.map fun item => item.key.map tolower).Nodup

theorem hasKey_iff : item.hasKey key = true ↔ item.key.map tolower = key.map tolower := by
  simp [Header.hasKey, strcasecmpEq]

theorem map_key_setItemValue (f : Bytes → Bytes) :
    (setItemValue key value headers).map (fun item => f item.key) =
      headers.map fun item => f item.key := by
  induction headers with
  | nil => rfl
  | cons item items ih =>
    simp only [setItemValue]
    split_ifs <;> simp [ih]

theorem httpHeaderGetItem_eq_none : httpHeaderGetItem headers key = none ↔
    key.map tolower ∉ headers.map fun item => item.key.map tolower := by
  simp [httpHeaderGetItem, hasKey_iff, List.find?_eq_none]

theorem KeysDistinct.set (h : KeysDistinct headers) (hkey : httpUtilsTrimWhitespace key = key)
    (value : Option Bytes) : KeysDistinct (httpHeaderSet headers key value) := by
  cases value with
  | none => exact h.sublist ((List.eraseP_sublist).map _)
  | some value =>
    simp only [httpHeaderSet]
    split_ifs with hitem
    · rw [KeysDistinct, map_key_setItemValue fun key => key.map tolower]
      exact h
    · have hnone := httpHeaderGetItem_eq_none.mp (Option.not_isSome_iff_eq_none.mp hitem)
      rw [KeysDistinct, httpHeaderNewItem, List.map_append, List.map_singleton, hkey]
      exact List.nodup_append.mpr ⟨h, List.nodup_singleton _, by
        intro k hk k' hk' heq
        rw [List.mem_singleton] at hk'
        exact hnone (hk' ▸ heq ▸ hk)⟩

/-- A header that is set is found with its value. -/
theorem httpHeaderGet_set (hkey : httpUtilsTrimWhitespace key = key) :
    httpHeaderGet (httpHeaderSet headers key (some value)) key =
      some (httpUtilsTrimWhitespace value) := by
  simp only [httpHeaderSet]
  split_ifs with hitem
  · induction headers with
    | nil => simp [httpHeaderGetItem] at hitem
    | cons item items ih =>
      by_cases hhas : item.hasKey key = true
      · have hsame : Header.hasKey key ⟨item.key, httpUtilsTrimWhitespace value⟩ = true :=
          hasKey_iff.mpr (hasKey_iff.mp hhas)
        simp [setItemValue, hhas, httpHeaderGet, httpHeaderGetItem, hsame]
      · simp only [httpHeaderGetItem, List.find?_cons_of_neg hhas] at hitem
        have htail := ih hitem
        simpa [setItemValue, hhas, httpHeaderGet, httpHeaderGetItem] using htail
  · have hnone := Option.not_isSome_iff_eq_none.mp hitem
    have hself : Header.hasKey key ⟨key, httpUtilsTrimWhitespace value⟩ = true :=
      hasKey_iff.mpr rfl
    simp only [httpHeaderGetItem] at hnone
    simp [httpHeaderGet, httpHeaderGetItem, httpHeaderNewItem, hkey, List.find?_append, hnone,
      hself]

/-- The headers with a key are the one that is found. -/
theorem KeysDistinct.filter (h : KeysDistinct headers) (key : Bytes) :
    (headers.filter (Header.hasKey key)).map Header.value =
      (httpHeaderGet headers key).toList := by
  induction headers with
  | nil => rfl
  | cons item items ih =>
    rw [KeysDistinct, List.map_cons, List.nodup_cons] at h
    by_cases hhas : item.hasKey key = true
    · have hnone : ∀ item' ∈ items, ¬item'.hasKey key = true := by
        intro item' hmem hhas'
        rw [hasKey_iff] at hhas hhas'
        exact h.1 (List.mem_map.mpr ⟨item', hmem, hhas'.trans hhas.symm⟩)
      simp [hhas, httpHeaderGet, httpHeaderGetItem, List.filter_eq_nil_iff.mpr hnone]
    · have htail := ih h.2
      simpa [hhas, httpHeaderGet, httpHeaderGetItem] using htail

end Items

section Text

def crlf : Bytes := ascii "\r\n"

/-- What `snprintf` writes for a header. -/
def Header.line (item : Header) : Bytes := item.key ++ ascii ": " ++ item.value ++ crlf

def headerLines (headers : List Header) : Bytes := headers.flatMap Header.line

/-- The first loop of `http_header_generate_string`: the size of the headers from the index on, up
to the first one that does not fit, and the index of that one. -/
def scanItems (index bufferLen : ℕ) : List Header → ℕ → ℕ → ℕ × Option ℕ
  | [], _, siz => (siz, none)
  | item :: items, idx, siz =>
      let siz := if index ≤ idx then siz + item.line.length else siz
      if bufferLen < siz + 3 then (siz, some idx) else scanItems index bufferLen items (idx + 1) siz

/-- `http_header_generate_string`: the next index and the text. A text is shorter than the buffer,
so `snprintf` never cuts it. -/
def httpHeaderGenerateString (headers : List Header) (index bufferLen : ℕ) : ℕ × Bytes :=
  let (siz, last) := scanItems index bufferLen headers 0 0
  if siz = 0 then (0, [])
  else
    match last with
    | none => (headers.length, headerLines (headers.drop index) ++ crlf)
    | some last => (last, headerLines ((headers.take last).drop index))

variable {headers items : List Header} {index bufferLen idx siz : ℕ}

theorem length_line_pos (item : Header) : 0 < item.line.length := by
  have hcrlf : crlf.length = 2 := by decide
  simp only [Header.line, List.length_append, hcrlf]
  omega

theorem headerLines_append (items items' : List Header) :
    headerLines (items ++ items') = headerLines items ++ headerLines items' := by
  simp [headerLines]

theorem headerLines_cons (item : Header) (items : List Header) :
    headerLines (item :: items) = item.line ++ headerLines items := by
  simp [headerLines]

/-- Before the index nothing is counted. -/
theorem scanItems_before (headers items : List Header) (hbuffer : 3 ≤ bufferLen)
    (hidx : idx + items.length ≤ index) :
    scanItems index bufferLen (items ++ headers) idx 0 =
      scanItems index bufferLen headers (idx + items.length) 0 := by
  induction items generalizing idx with
  | nil => rfl
  | cons item items ih =>
    simp only [List.length_cons] at hidx
    have hbefore : ¬index ≤ idx := by omega
    have hfits : ¬bufferLen < 0 + 3 := by omega
    simp only [List.cons_append, scanItems, if_neg hbefore, if_neg hfits, List.length_cons]
    rw [ih (by omega), show idx + 1 + items.length = idx + (items.length + 1) by omega]

theorem scanItems_drop (h : index ≤ headers.length) (hbuffer : 3 ≤ bufferLen) :
    scanItems index bufferLen headers 0 0 =
      scanItems index bufferLen (headers.drop index) index 0 := by
  have hbefore := scanItems_before (headers.drop index) (headers.take index) hbuffer
    (show 0 + (headers.take index).length ≤ index by simp)
  simpa [List.take_append_drop, Nat.min_eq_left h] using hbefore

/-- From the index on, the scan stops at the first header that does not fit any more. -/
theorem scanItems_from (items : List Header) (hidx : index ≤ idx) (hsiz : siz + 3 ≤ bufferLen) :
    (scanItems index bufferLen items idx siz = (siz + (headerLines items).length, none) ∧
        siz + (headerLines items).length + 3 ≤ bufferLen) ∨
      ∃ k < items.length, (scanItems index bufferLen items idx siz).2 = some (idx + k) ∧
        siz < (scanItems index bufferLen items idx siz).1 ∧
        siz + (headerLines (items.take k)).length + 3 ≤ bufferLen ∧
        bufferLen < siz + (headerLines (items.take (k + 1))).length + 3 := by
  induction items generalizing idx siz with
  | nil => exact .inl ⟨rfl, hsiz⟩
  | cons item items ih =>
    have hpos := length_line_pos item
    simp only [scanItems, if_pos hidx]
    by_cases hfits : bufferLen < siz + item.line.length + 3
    · refine .inr ⟨0, Nat.succ_pos _, ?_⟩
      simp only [if_pos hfits]
      simpa [headerLines, hpos, hsiz] using hfits
    · simp only [if_neg hfits]
      have hstep := ih (show index ≤ idx + 1 by omega)
        (show siz + item.line.length + 3 ≤ bufferLen by omega)
      rcases hstep with ⟨hscan, hroom⟩ | ⟨k, hk, hlast, hsize, hroom, hfull⟩
      · left
        simp only [headerLines_cons, List.length_append, ← Nat.add_assoc]
        exact ⟨hscan, hroom⟩
      · right
        refine ⟨k + 1, by simpa using hk, ?_, by omega, ?_, ?_⟩
        · rw [hlast, show idx + 1 + k = idx + (k + 1) by omega]
        · simpa [headerLines_cons, Nat.add_assoc] using hroom
        · simpa [headerLines_cons, Nat.add_assoc] using hfull

/-- Behind the last header there is nothing to write. -/
theorem httpHeaderGenerateString_end (h : headers.length ≤ index) :
    httpHeaderGenerateString headers index bufferLen = (0, []) := by
  have hsiz : ∀ (items : List Header) (idx : ℕ), idx + items.length ≤ index →
      (scanItems index bufferLen items idx 0).1 = 0 := by
    intro items
    induction items with
    | nil => intros; rfl
    | cons item items ih =>
      intro idx hidx
      simp only [List.length_cons] at hidx
      simp only [scanItems, if_neg (show ¬index ≤ idx by omega)]
      split_ifs
      · rfl
      · exact ih (idx + 1) (by omega)
  simp [httpHeaderGenerateString, hsiz headers 0 (by omega)]

/-- The text and its NUL fit into the buffer. -/
theorem length_httpHeaderGenerateString (headers : List Header) (index : ℕ)
    (hbuffer : 0 < bufferLen) :
    (httpHeaderGenerateString headers index bufferLen).2.length < bufferLen := by
  by_cases hindex : headers.length ≤ index
  · simpa [httpHeaderGenerateString_end hindex] using hbuffer
  by_cases hroom : bufferLen < 3
  · cases headers with
    | nil => simp at hindex
    | cons item items =>
      have hfull (siz : ℕ) : bufferLen < siz + 3 := by omega
      simp only [httpHeaderGenerateString, scanItems, if_pos (hfull _)]
      split_ifs <;> simpa [headerLines] using hbuffer
  · have hscan := scanItems_drop (show index ≤ headers.length by omega)
      (show 3 ≤ bufferLen by omega)
    rcases scanItems_from (headers.drop index) (le_refl index)
      (show 0 + 3 ≤ bufferLen by omega) with ⟨hall, hlen⟩ | ⟨k, -, hlast, hsize, hlen, -⟩
    · simp only [httpHeaderGenerateString, hscan, hall]
      split_ifs
      · simpa using hbuffer
      · simp [crlf, ascii]
        omega
    · simp only [httpHeaderGenerateString, hscan, hlast, if_neg hsize.ne', List.drop_take,
        Nat.add_sub_cancel_left]
      omega

/-- A header that fits into the buffer on its own is written, with as many of the following ones as
fit; the terminator follows the last one. -/
theorem httpHeaderGenerateString_next (h : index < headers.length)
    (hfits : headers[index].line.length + 3 ≤ bufferLen) :
    ∃ k, 0 < k ∧ index + k ≤ headers.length ∧
      httpHeaderGenerateString headers index bufferLen = (index + k,
        headerLines ((headers.drop index).take k) ++
          if index + k = headers.length then crlf else []) := by
  have hdrop : headers.drop index = headers[index] :: headers.drop (index + 1) :=
    List.drop_eq_getElem_cons h
  have hscan := scanItems_drop (Nat.le_of_lt h) (show 3 ≤ bufferLen by omega)
  rcases scanItems_from (headers.drop index) (le_refl index)
    (show 0 + 3 ≤ bufferLen by omega) with ⟨hall, -⟩ | ⟨k, hk, hlast, hsize, -, hfull⟩
  · have hpos : 0 < (headerLines (headers.drop index)).length := by
      rw [hdrop, headerLines_cons, List.length_append]
      exact Nat.lt_add_right _ (length_line_pos _)
    refine ⟨headers.length - index, by omega, by omega, ?_⟩
    have htake : (headers.drop index).take (headers.length - index) = headers.drop index :=
      List.take_of_length_le (by simp)
    simp only [httpHeaderGenerateString, hscan, hall, Nat.zero_add, if_neg hpos.ne', htake,
      if_pos (show index + (headers.length - index) = headers.length by omega)]
    rw [show index + (headers.length - index) = headers.length by omega]
  · have hpos : 0 < k := by
      rcases Nat.eq_zero_or_pos k with rfl | hpos
      · rw [hdrop, List.take_succ_cons, headerLines_cons, List.length_append] at hfull
        simp [headerLines] at hfull
        omega
      · exact hpos
    rw [List.length_drop] at hk
    refine ⟨k, hpos, by omega, ?_⟩
    simp only [httpHeaderGenerateString, hscan, hlast, if_neg hsize.ne',
      if_neg (show ¬index + k = headers.length by omega), List.append_nil]
    rw [List.drop_take, Nat.add_sub_cancel_left]

end Text

end RuuviGateway.Http
