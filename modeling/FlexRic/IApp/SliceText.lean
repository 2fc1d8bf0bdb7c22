import FlexRic.Lib.Format
import FlexRic.Sm.SliceTypes

/-!
# FlexRic.IApp.SliceText

The record of a SLICE indication as text (`to_string_slice` of `ric/iApps/string_parser.c`).

* `Printer` is the buffer of the caller with what is written to it so far; each text goes
  through a scratch buffer of 2048 characters, whose bound is the length of the caller's buffer,
  and what `snprintf` returns is negative for a text longer than an `int` can count;
* `texts` lists what is printed, one text for the header and one for each slice and UE;
* `Roomy` says for which of them nothing is written where it must not be;
* `slice_text`: exactly then the record is as it should be.

The length of the record is only looked at when all of it is written, and a slice of no
algorithm, or of SCN19, has no text. An empty array of octets stands for a `NULL`, which `%s`
writes as `(null)`; a block without an octet is no value here.
-/

namespace FlexRic

namespace Slice

open Plain Format

/-! ## The texts -/

/-- `slice_stats` without slices. -/
def schedHeader (tstamp : Int64) (schedName : Arr Octet) : List Octet :=
  text "slice_stats: tstamp=" ++ signed tstamp.toInt ++ text ",dl->sched_name=" ++ string schedName

/-- `slice_stats` before the first slice. -/
def confHeader (tstamp : Int64) (lenSlices : UInt32) : List Octet :=
  text "slice_stats: tstamp=" ++ signed tstamp.toInt ++ text ",slice_conf,dl,len_slices=" ++
    decimal lenSlices.toNat

/-- What the records of all algorithms begin with. -/
def sliceHead (i : Nat) (s : FrSlice) (algorithm : String) : List Octet :=
  text ",slice[" ++ decimal i ++ text "],id=" ++ decimal s.id.toNat ++ text ",label=" ++
    string s.label ++ text ",type=" ++ decimal s.params.type.toNat ++ text "," ++ text algorithm ++
    text ",sched=" ++ string s.sched

/-- The record of the `i`-th slice, for the algorithms that have one. -/
def sliceRecord (i : Nat) (s : FrSlice) : Option (List Octet) :=
  match s.params with
  | .sta sta => some (sliceHead i s "static" ++ text ",pos_high=" ++ decimal sta.posHigh.toNat ++
      text ",pos_low=" ++ decimal sta.posLow.toNat)
  | .nvs (.rate r) => some (sliceHead i s "nvs" ++ text ",conf=" ++
      decimal (NvsSlice.rate r).conf.toNat ++ text ",rate,mbps_required=" ++ fixed2 r.mbpsRequired ++
      text ",mbps_reference=" ++ fixed2 r.mbpsReference)
  | .nvs (.capacity pctReserved) => some (sliceHead i s "nvs" ++ text ",conf=" ++
      decimal (NvsSlice.capacity pctReserved).conf.toNat ++ text ",capacity,pct_reserved=" ++
      fixed2 pctReserved)
  | .edf edf => some (sliceHead i s "edf" ++ text ",deadline=" ++ decimal edf.deadline.toNat ++
      text ",guaranteed_prbs=" ++ decimal edf.guaranteedPrbs.toNat ++ text ",max_replenish=" ++
      decimal edf.maxReplenish.toNat)
  | .none => none
  | .scn19 _ => none

/-- `ue_slice_conf` before the first UE. -/
def ueHeader (lenUeSlice : UInt32) : List Octet :=
  text ",ue_slice_conf,len_ue_slice=" ++ decimal lenUeSlice.toNat

/-- The record of the `i`-th UE. -/
def ueRecord (i : Nat) (u : UeSliceAssoc) : List Octet :=
  text ",ues[" ++ decimal i ++ text "],rnti=" ++ hex u.rnti.toNat ++ text ",dl_id=" ++
    signed u.dlId.toInt32.toInt

/-! ## The code -/

/-- `max`, and the size of `temp`. -/
def maxText : Nat := 2048

/-- The assertion of each text, and of the record. -/
def noSpace : String := "Not enough space in the char array to write all the data"

/-- `out`, with the `sz` characters written to it. -/
structure Printer where
  out : List Octet
  sz : Nat
  deriving DecidableEq

namespace Printer

/-- `memcpy(out + sz, bs, n)`, with what comes after it. -/
def put (p : Printer) (bs : List Octet) : Access Printer :=
  if p.sz + bs.length ≤ p.out.length then
    .done ⟨p.out.take p.sz ++ bs ++ p.out.drop (p.sz + bs.length), p.sz + bs.length⟩
  else .overwrite

/-- What `snprintf` returns for a text: its length, where an `int` can be that, and `EOVERFLOW`
otherwise. -/
def snprintfRc (t : List Octet) : Int := if t.length < 2 ^ 31 then t.length else -1

/-- `snprintf` into the scratch buffer, with the bound of the other one, and the copy. -/
def print (p : Printer) (t : List Octet) : Access Printer :=
  let temp := t.take (p.out.length - 1)
  if maxText < temp.length + 1 then .overwrite
  else if snprintfRc t < maxText then p.put (temp.take (strlen temp))
  else .refused noSpace

/-- `if (c)`, with the text for it. -/
def printIf (p : Printer) (c : Bool) (t : List Octet) : Access Printer :=
  if c then p.print t else pure p

/-- The loop over the slices, from the `i`-th on. -/
def printSlices (p : Printer) (tstamp : Int64) (lenSlices : UInt32) (i : Nat) :
    List FrSlice → Access Printer
  | [] => return p
  | s :: slices => do
    let p ← p.printIf (i = 0) (confHeader tstamp lenSlices)
    let p ← match sliceRecord i s with
      | some t => p.print t
      | none => p.put []
    p.printSlices tstamp lenSlices (i + 1) slices

/-- The loop over the UEs, from the `i`-th on. -/
def printUes (p : Printer) (lenUeSlice : UInt32) (i : Nat) : List UeSliceAssoc → Access Printer
  | [] => return p
  | u :: ues => do
    let p ← p.printIf (i = 0) (ueHeader lenUeSlice)
    let p ← p.print (ueRecord i u)
    p.printUes lenUeSlice (i + 1) ues

/-- The end of the line, and of the string. -/
def finish (p : Printer) : Access (List Octet) := do
  let p ← p.put (text "\n")
  let p ← p.put [0]
  if strlen p.out < maxText then return p.out
  else .refused noSpace

end Printer

/-- `to_string_slice`, into the buffer `out`. -/
def toStringSlice (slice : SliceIndMsg) (tstamp : Int64) (out : List Octet) :
    Access (List Octet) := do
  if maxText ≤ out.length then
    let p : Printer := ⟨out, 0⟩
    let dl := slice.sliceConf.dl
    let p ← p.printIf (dl.slices.len = 0) (schedHeader tstamp dl.schedName)
    let p ← p.printSlices tstamp dl.slices.len 0 dl.slices.items
    let p ← p.printUes slice.ueSliceConf.ues.len 0 slice.ueSliceConf.ues.items
    p.finish
  else .refused "out_len >= max"

/-! ## What is asked of the record -/

/-- The records of the slices from the `i`-th on, where each has one. -/
def slicesText (i : Nat) : List FrSlice → Option (List Octet)
  | [] => some []
  | s :: slices => do
    let record ← sliceRecord i s
    let rest ← slicesText (i + 1) slices
    return record ++ rest

def uesText (i : Nat) : List UeSliceAssoc → List Octet
  | [] => []
  | u :: ues => ueRecord i u ++ uesText (i + 1) ues

/-- The header, one record for each slice, and one for each UE. -/
def recordText (slice : SliceIndMsg) (tstamp : Int64) : Option (List Octet) := do
  let dl := slice.sliceConf.dl
  let ues := slice.ueSliceConf.ues
  let slices ← slicesText 0 dl.slices.items
  return (if dl.slices.items = [] then schedHeader tstamp dl.schedName
      else confHeader tstamp dl.slices.len) ++ slices ++
    ((if ues.items = [] then [] else ueHeader ues.len) ++ uesText 0 ues.items) ++ text "\n"

/-- **What is asked of `to_string_slice`**: it writes where it may, and what it returns is the
record. -/
def Recorded (slice : SliceIndMsg) (tstamp : Int64) (out : List Octet) : Prop :=
  toStringSlice slice tstamp out ≠ .overwrite ∧
    ∀ out', toStringSlice slice tstamp out = .done out' →
      recordText slice tstamp = some (out'.take (strlen out'))

/-! ## What is printed -/

/-- The algorithm has a record. -/
def SliceParams.HasText : SliceParams → Prop
  | .none => False
  | .scn19 _ => False
  | _ => True

instance (params : SliceParams) : Decidable params.HasText := by
  cases params <;> unfold SliceParams.HasText <;> infer_instance

def sliceTexts (tstamp : Int64) (lenSlices : UInt32) (i : Nat) : List FrSlice → List (List Octet)
  | [] => []
  | s :: slices => (if i = 0 then [confHeader tstamp lenSlices] else []) ++
      (sliceRecord i s).toList ++ sliceTexts tstamp lenSlices (i + 1) slices

def ueTexts (lenUeSlice : UInt32) (i : Nat) : List UeSliceAssoc → List (List Octet)
  | [] => []
  | u :: ues => (if i = 0 then [ueHeader lenUeSlice] else []) ++ [ueRecord i u] ++
      ueTexts lenUeSlice (i + 1) ues

/-- What goes through the scratch buffer. -/
def texts (slice : SliceIndMsg) (tstamp : Int64) : List (List Octet) :=
  let dl := slice.sliceConf.dl
  (if dl.slices.items = [] then [schedHeader tstamp dl.schedName] else []) ++
    sliceTexts tstamp dl.slices.len 0 dl.slices.items ++
    ueTexts slice.ueSliceConf.ues.len 0 slice.ueSliceConf.ues.items

/-- The texts before the first one that the scratch buffer cannot hold. -/
def shortTexts (ts : List (List Octet)) : List (List Octet) :=
  ts.takeWhile fun t => decide (t.length < maxText)

/-- `snprintf` can say how long the first text is that the scratch buffer cannot hold. -/
def Counted (ts : List (List Octet)) : Prop :=
  ∀ t ∈ ts.find? fun t => decide (maxText ≤ t.length), t.length < 2 ^ 31

instance (ts : List (List Octet)) : Decidable (Counted ts) := by
  unfold Counted
  infer_instance

/-- **There is room for the record**, in a buffer of `outLen`: for what comes before a text that
is too long, which has to find `outLen` at its least, and to be counted; or for all of it with
its end, where no slice is without a text. -/
def Roomy (slice : SliceIndMsg) (tstamp : Int64) (outLen : Nat) : Prop :=
  let ts := texts slice tstamp
  if shortTexts ts = ts then
    ts.flatten.length + 2 ≤ outLen ∧ (ts.flatten.length + 1 < maxText →
      ∀ s ∈ slice.sliceConf.dl.slices.items, s.params.HasText)
  else (shortTexts ts).flatten.length ≤ outLen ∧ outLen = maxText ∧ Counted ts

instance (slice : SliceIndMsg) (tstamp : Int64) (outLen : Nat) :
    Decidable (Roomy slice tstamp outLen) := by
  unfold Roomy
  infer_instance

section Long

variable {t : List Octet} {ts : List (List Octet)}

theorem shortTexts_cons (h : t.length < maxText) :
    shortTexts (t :: ts) = t :: shortTexts ts :=
  List.takeWhile_cons_of_pos (decide_eq_true h)

theorem shortTexts_long (h : maxText ≤ t.length) : shortTexts (t :: ts) = [] :=
  List.takeWhile_cons_of_neg fun hd => absurd (of_decide_eq_true hd) (Nat.not_lt_of_le h)

theorem counted_cons (h : t.length < maxText) : Counted (t :: ts) ↔ Counted ts := by
  have hskip : decide (maxText ≤ t.length) = false := decide_eq_false (Nat.not_le_of_lt h)
  simp only [Counted, List.find?_cons, hskip]

theorem counted_long (h : maxText ≤ t.length) : Counted (t :: ts) ↔ t.length < 2 ^ 31 := by
  simp only [Counted, List.find?_cons, decide_eq_true h, Option.mem_some_iff, forall_eq']

end Long

/-! ## One text -/

namespace Printer

/-- All of `ts`, one after the other. -/
def printAll (p : Printer) : List (List Octet) → Access Printer
  | [] => return p
  | t :: ts => do
    let p ← p.print t
    p.printAll ts

/-- `w` is what is written to a buffer of `n`. -/
structure Wrote (p : Printer) (w : List Octet) (n : Nat) : Prop where
  sz : p.sz = w.length
  out : ∃ rest, p.out = w ++ rest
  len : p.out.length = n

variable {p p' : Printer} {w t : List Octet} {ts : List (List Octet)} {n : Nat}

theorem Wrote.le (h : p.Wrote w n) : w.length ≤ n := by
  obtain ⟨rest, hrest⟩ := h.out
  rw [← h.len, hrest, List.length_append]
  exact Nat.le_add_right _ _

theorem Wrote.put (h : p.Wrote w n) (hroom : w.length + t.length ≤ n) :
    ∃ p', p.put t = .done p' ∧ p'.Wrote (w ++ t) n := by
  obtain ⟨rest, hrest⟩ := h.out
  have hle : p.sz + t.length ≤ p.out.length := by
    rw [h.sz, h.len]
    exact hroom
  have htake : p.out.take p.sz = w := by rw [h.sz, hrest, List.take_left]
  refine ⟨_, if_pos hle, ?_, ⟨p.out.drop (p.sz + t.length), ?_⟩, ?_⟩
  · rw [h.sz, List.length_append]
  · rw [htake]
  · rw [htake, List.length_append, List.length_append, List.length_drop, ← h.sz, h.len]
    rw [h.len] at hle
    omega

theorem Wrote.put_overwrite (h : p.Wrote w n) (hroom : n < w.length + t.length) :
    p.put t = .overwrite := by
  refine if_neg ?_
  rw [h.sz, h.len]
  omega

theorem Wrote.put_nil (h : p.Wrote w n) : ∃ p', p.put [] = .done p' ∧ p'.Wrote w n := by
  obtain ⟨p', hrun, h'⟩ := h.put (t := []) h.le
  exact ⟨p', hrun, by rwa [List.append_nil] at h'⟩

/-- The assertion after `snprintf`. -/
theorem snprintfRc_lt : snprintfRc t < maxText ↔ t.length < maxText ∨ 2 ^ 31 ≤ t.length := by
  have hmax : maxText < 2 ^ 31 := by decide
  unfold snprintfRc
  split <;> omega

/-- What `snprintf` leaves in the scratch buffer, in the caller's bound. -/
theorem Wrote.print (h : p.Wrote w n) (ht : NoNul t) :
    p.print t = if maxText < (t.take (n - 1)).length + 1 then .overwrite
      else if snprintfRc t < maxText then p.put (t.take (n - 1)) else .refused noSpace := by
  have hnul : NoNul (t.take (n - 1)) := fun b hb => ht b (List.mem_of_mem_take hb)
  rw [Printer.print, h.len, strlen_of_noNul hnul, List.take_length]

theorem Wrote.print_short (h : p.Wrote w n) (hn : maxText ≤ n) (ht : NoNul t)
    (hlen : t.length < maxText) : p.print t = p.put t := by
  rw [h.print ht, List.take_of_length_le (by omega), if_neg (by omega),
    if_pos (snprintfRc_lt.mpr (.inl hlen))]

/-- A text that the scratch buffer cannot hold. -/
theorem Wrote.print_long (h : p.Wrote w n) (hn : maxText ≤ n) (ht : NoNul t)
    (hlen : maxText ≤ t.length) :
    (n = maxText → t.length < 2 ^ 31 → p.print t = .refused noSpace) ∧
    (n ≠ maxText → p.print t = .overwrite) := by
  rw [h.print ht, List.length_take]
  refine ⟨fun heq hrc => ?_, fun hne => if_pos ?_⟩
  · have hmax : maxText - 1 + 1 = maxText := rfl
    rw [heq, if_neg (by omega), if_neg ?_]
    rw [snprintfRc_lt]
    omega
  · omega

/-- A text that `snprintf` cannot count passes the assertion, and fills the scratch buffer. -/
theorem Wrote.print_uncounted (h : p.Wrote w n) (hn : n = maxText) (ht : NoNul t)
    (hrc : 2 ^ 31 ≤ t.length) : p.print t = p.put (t.take (n - 1)) := by
  have hmax : maxText - 1 + 1 = maxText := rfl
  rw [h.print ht, List.length_take, hn, if_neg (by omega), if_pos (snprintfRc_lt.mpr (.inr hrc))]

/-! ## All texts -/

/-- **All of the texts.** They end up in the buffer, or the scratch buffer refuses one of them, or
something is written past an end. -/
theorem Wrote.printAll (h : p.Wrote w n) (hn : maxText ≤ n) (hts : ∀ t ∈ ts, NoNul t) :
    (shortTexts ts = ts → w.length + ts.flatten.length ≤ n →
      ∃ p', p.printAll ts = .done p' ∧ p'.Wrote (w ++ ts.flatten) n) ∧
    (shortTexts ts ≠ ts → w.length + (shortTexts ts).flatten.length ≤ n → n = maxText →
      Counted ts → p.printAll ts = .refused noSpace) ∧
    (¬(w.length + (shortTexts ts).flatten.length ≤ n ∧ (shortTexts ts ≠ ts → n = maxText)) →
      p.printAll ts = .overwrite) := by
  induction ts generalizing p w with
  | nil =>
    refine ⟨fun _ _ => ⟨p, rfl, by simpa using h⟩, fun hno => absurd rfl hno, fun hno => ?_⟩
    exact absurd ⟨by simpa [shortTexts] using h.le, fun hne => absurd rfl hne⟩ hno
  | cons t ts ih =>
    by_cases hlen : t.length < maxText
    · have hshort : shortTexts (t :: ts) = t :: shortTexts ts := shortTexts_cons hlen
      have hall : shortTexts (t :: ts) = t :: ts ↔ shortTexts ts = ts := by
        rw [hshort, List.cons_inj_right]
      have hprint := h.print_short hn (hts t List.mem_cons_self) hlen
      by_cases hroom : w.length + t.length ≤ n
      · obtain ⟨p', hput, h'⟩ := h.put hroom
        have hrun : p.printAll (t :: ts) = p'.printAll ts := by
          rw [Printer.printAll, hprint]
          exact Access.bind_of_done hput
        have hsum {us : List (List Octet)} :
            (w ++ t).length + us.flatten.length = w.length + (t :: us).flatten.length := by
          rw [List.length_append, List.flatten_cons, List.length_append, Nat.add_assoc]
        obtain ⟨hdone, hrefused, hover⟩ := ih h' fun t ht => hts t (List.mem_cons_of_mem _ ht)
        rw [hrun, hall.ne, hall, hshort, ← hsum, ← hsum, List.flatten_cons, ← List.append_assoc,
          counted_cons hlen]
        exact ⟨hdone, hrefused, hover⟩
      · have hover : p.printAll (t :: ts) = .overwrite := by
          rw [Printer.printAll, hprint, h.put_overwrite (Nat.lt_of_not_le hroom)]
          rfl
        have hmore {us : List (List Octet)} : ¬w.length + (t :: us).flatten.length ≤ n := by
          rw [List.flatten_cons, List.length_append]
          omega
        exact ⟨fun _ hle => absurd hle hmore, fun _ hle => absurd (hshort ▸ hle) hmore,
          fun _ => hover⟩
    · have hlong := Nat.le_of_not_lt hlen
      obtain ⟨hrefused, hover⟩ := h.print_long hn (hts t List.mem_cons_self) hlong
      rw [shortTexts_long hlong]
      refine ⟨fun hno => (nomatch hno), fun _ _ heq hcounted => ?_, fun hno => ?_⟩
      · rw [Printer.printAll, hrefused heq ((counted_long hlong).mp hcounted)]
        rfl
      · have hne : n ≠ maxText := fun heq => hno ⟨by simpa using h.le, fun _ => heq⟩
        rw [Printer.printAll, hover hne]
        rfl

/-- A text that `snprintf` cannot count, with something before it. -/
theorem Wrote.printAll_uncounted (h : p.Wrote w n) (hn : n = maxText) (hts : ∀ t ∈ ts, NoNul t)
    (hno : ¬Counted ts) (hw : 1 < w.length + (shortTexts ts).flatten.length) :
    p.printAll ts = .overwrite := by
  induction ts generalizing p w with
  | nil => exact absurd (fun t ht => nomatch ht) hno
  | cons t ts ih =>
    have ht := hts t List.mem_cons_self
    by_cases hlen : t.length < maxText
    · rw [Printer.printAll, h.print_short (Nat.le_of_eq hn.symm) ht hlen]
      by_cases hroom : w.length + t.length ≤ n
      · obtain ⟨p', hput, h'⟩ := h.put hroom
        rw [Access.bind_of_done hput]
        refine ih h' (fun t ht => hts t (List.mem_cons_of_mem _ ht)) ?_ ?_
        · rwa [counted_cons hlen] at hno
        · rw [shortTexts_cons hlen, List.flatten_cons, List.length_append] at hw
          rw [List.length_append]
          omega
      · rw [h.put_overwrite (Nat.lt_of_not_le hroom)]
        rfl
    · have hlong := Nat.le_of_not_lt hlen
      rw [counted_long hlong] at hno
      rw [shortTexts_long hlong] at hw
      -- the whole scratch buffer is copied, and `w` is before it
      have hover : p.put (t.take (n - 1)) = .overwrite := by
        refine h.put_overwrite ?_
        have hnil : ([] : List (List Octet)).flatten.length = 0 := rfl
        rw [List.length_take]
        omega
      rw [Printer.printAll, h.print_uncounted hn ht (Nat.le_of_not_lt hno), hover]
      rfl

/-- **The end of the record.** -/
theorem Wrote.finish (h : p.Wrote w n) (hw : NoNul w) :
    (n < w.length + 2 → p.finish = .overwrite) ∧
    (w.length + 2 ≤ n → maxText ≤ w.length + 1 → p.finish = .refused noSpace) ∧
    (w.length + 2 ≤ n → w.length + 1 < maxText →
      ∃ out, p.finish = .done out ∧ out.take (strlen out) = w ++ text "\n") := by
  have hend : (text "\n").length = 1 := rfl
  by_cases hone : w.length + 1 ≤ n
  · obtain ⟨p₁, hrun₁, h₁⟩ := h.put (t := text "\n") hone
    have hlen₁ : (w ++ text "\n").length = w.length + 1 := List.length_append
    have hnul : NoNul (w ++ text "\n") := noNul_append.mpr ⟨hw, by decide⟩
    have hrun : p.finish = (do
        let p ← p₁.put [0]
        if strlen p.out < maxText then return p.out else .refused noSpace) :=
      Access.bind_of_done hrun₁
    by_cases htwo : w.length + 2 ≤ n
    · obtain ⟨p₂, hrun₂, h₂⟩ := h₁.put (t := [0]) (by rw [hlen₁]; exact htwo)
      obtain ⟨rest, hout⟩ := h₂.out
      have hstrlen : strlen p₂.out = w.length + 1 := by
        rw [hout, List.append_assoc, List.singleton_append, strlen_append_zero hnul, hlen₁]
      have htake : p₂.out.take (strlen p₂.out) = w ++ text "\n" := by
        rw [hstrlen, ← hlen₁, hout, List.append_assoc, List.take_left]
      rw [hrun, Access.bind_of_done hrun₂, hstrlen]
      refine ⟨fun hno => absurd htwo (by omega), fun _ hlong => ?_, fun _ hshort => ?_⟩
      · exact if_neg (Nat.not_lt_of_le hlong)
      · exact ⟨p₂.out, if_pos hshort, htake⟩
    · refine ⟨fun _ => ?_, fun hno => absurd hno htwo, fun hno => absurd hno htwo⟩
      rw [hrun, h₁.put_overwrite (t := [0]) (by rw [hlen₁]; exact Nat.lt_of_not_le htwo)]
      rfl
  · refine ⟨fun _ => ?_, fun hno => absurd hno (by omega), fun hno => absurd hno (by omega)⟩
    rw [Printer.finish, h.put_overwrite (t := text "\n") (Nat.lt_of_not_le hone)]
    rfl

theorem printAll_append {us : List (List Octet)} :
    p.printAll (ts ++ us) = (p.printAll ts >>= fun p => p.printAll us) := by
  induction ts generalizing p with
  | nil => rfl
  | cons t ts ih =>
    rw [List.cons_append, Printer.printAll, Printer.printAll, Access.bind_bind]
    exact congrArg (p.print t >>= ·) (funext fun p => ih)

end Printer

/-! ## The loops print the texts -/

open Printer

theorem noNul_sliceHead (i : Nat) (s : FrSlice) {algorithm : String} (h : NoNul (text algorithm)) :
    NoNul (sliceHead i s algorithm) := by
  simp only [sliceHead, noNul_append]
  refine ⟨⟨⟨⟨⟨⟨⟨⟨⟨⟨⟨by decide, noNul_decimal _⟩, by decide⟩, noNul_decimal _⟩, by decide⟩,
    noNul_string _⟩, by decide⟩, noNul_decimal _⟩, by decide⟩, h⟩, by decide⟩, noNul_string _⟩

theorem noNul_sliceRecord {i : Nat} {s : FrSlice} {t : List Octet} (h : sliceRecord i s = some t) :
    NoNul t := by
  cases hp : s.params with
  | none => rw [sliceRecord, hp] at h; cases h
  | scn19 scn => rw [sliceRecord, hp] at h; cases h
  | sta sta =>
    rw [sliceRecord, hp] at h
    obtain rfl := Option.some.inj h
    simp only [noNul_append]
    exact ⟨⟨⟨⟨noNul_sliceHead i s (by decide), by decide⟩, noNul_decimal _⟩, by decide⟩,
      noNul_decimal _⟩
  | nvs nvs =>
    cases nvs with
    | rate r =>
      rw [sliceRecord, hp] at h
      obtain rfl := Option.some.inj h
      simp only [noNul_append]
      exact ⟨⟨⟨⟨⟨⟨noNul_sliceHead i s (by decide), by decide⟩, noNul_decimal _⟩, by decide⟩,
        noNul_fixed2 _⟩, by decide⟩, noNul_fixed2 _⟩
    | capacity c =>
      rw [sliceRecord, hp] at h
      obtain rfl := Option.some.inj h
      simp only [noNul_append]
      exact ⟨⟨⟨⟨noNul_sliceHead i s (by decide), by decide⟩, noNul_decimal _⟩, by decide⟩,
        noNul_fixed2 _⟩
  | edf edf =>
    rw [sliceRecord, hp] at h
    obtain rfl := Option.some.inj h
    simp only [noNul_append]
    exact ⟨⟨⟨⟨⟨⟨noNul_sliceHead i s (by decide), by decide⟩, noNul_decimal _⟩, by decide⟩,
      noNul_decimal _⟩, by decide⟩, noNul_decimal _⟩

theorem sliceRecord_isSome {i : Nat} {s : FrSlice} :
    (sliceRecord i s).isSome ↔ s.params.HasText := by
  cases hp : s.params with
  | none => rw [sliceRecord, hp]; exact ⟨fun h => (nomatch h), False.elim⟩
  | scn19 scn => rw [sliceRecord, hp]; exact ⟨fun h => (nomatch h), False.elim⟩
  | sta sta => rw [sliceRecord, hp]; exact ⟨fun _ => trivial, fun _ => rfl⟩
  | nvs nvs => cases nvs <;> (rw [sliceRecord, hp]; exact ⟨fun _ => trivial, fun _ => rfl⟩)
  | edf edf => rw [sliceRecord, hp]; exact ⟨fun _ => trivial, fun _ => rfl⟩

namespace Printer

variable {p p' : Printer} {t : List Octet} {ts : List (List Octet)}

theorem put_nil (h : p.sz ≤ p.out.length) : p.put [] = .done p := by
  obtain ⟨out, sz⟩ := p
  refine (if_pos h).trans ?_
  rw [List.append_nil, List.length_nil, Nat.add_zero, List.take_append_drop]

theorem put_le (h : p.put t = .done p') : p'.sz ≤ p'.out.length := by
  unfold put at h
  split at h
  · next hle =>
    obtain rfl := Access.done_inj.mp h
    simp only [List.length_append, List.length_take, List.length_drop]
    omega
  · cases h

theorem print_le (h : p.print t = .done p') : p'.sz ≤ p'.out.length := by
  unfold print at h
  dsimp only at h
  split at h
  · cases h
  · split at h
    · exact put_le h
    · cases h

theorem printAll_le (hp : p.sz ≤ p.out.length) (h : p.printAll ts = .done p') :
    p'.sz ≤ p'.out.length := by
  induction ts generalizing p with
  | nil => exact Access.done_inj.mp h ▸ hp
  | cons t ts ih =>
    obtain ⟨p₁, hrun, h⟩ := Access.bind_eq_done.mp h
    exact ih (print_le hrun) h

/-- A header is printed, or none. -/
theorem printIf_eq {c : Bool} : p.printIf c t = p.printAll (if c then [t] else []) := by
  cases c with
  | true =>
    rw [printIf, if_pos rfl, if_pos rfl]
    cases hrun : p.print t <;> (rw [Printer.printAll, hrun]; rfl)
  | false => rfl

theorem printSlices_eq {tstamp : Int64} {len : UInt32} {i : Nat} {slices : List FrSlice}
    (hp : p.sz ≤ p.out.length) :
    p.printSlices tstamp len i slices = p.printAll (sliceTexts tstamp len i slices) := by
  induction slices generalizing p i with
  | nil => rfl
  | cons s slices ih =>
    rw [Printer.printSlices, sliceTexts, List.append_assoc, printAll_append, printIf_eq]
    simp only [decide_eq_true_eq]
    refine Access.bind_congr fun p₁ hrun₁ => ?_
    have hp₁ := printAll_le hp hrun₁
    cases sliceRecord i s with
    | none =>
      dsimp only
      rw [Access.bind_of_done (put_nil hp₁), ih hp₁]
      rfl
    | some t => exact Access.bind_congr fun p₂ hrun₂ => ih (print_le hrun₂)

theorem printUes_eq {len : UInt32} {i : Nat} {ues : List UeSliceAssoc} :
    p.printUes len i ues = p.printAll (ueTexts len i ues) := by
  induction ues generalizing p i with
  | nil => rfl
  | cons u ues ih =>
    rw [Printer.printUes, ueTexts, List.append_assoc, printAll_append, printIf_eq]
    simp only [decide_eq_true_eq]
    exact Access.bind_congr fun p₁ _ => Access.bind_congr fun p₂ _ => ih

end Printer

/-- **`to_string_slice`** prints its texts, and ends the record. -/
theorem toStringSlice_eq {slice : SliceIndMsg} {tstamp : Int64} {out : List Octet}
    (hout : maxText ≤ out.length) :
    toStringSlice slice tstamp out =
      (Printer.printAll ⟨out, 0⟩ (texts slice tstamp) >>= Printer.finish) := by
  have hempty : slice.sliceConf.dl.slices.len = 0 ↔ slice.sliceConf.dl.slices.items = [] := by
    rw [← UInt32.toNat_inj, Arr.toNat_len, List.eq_nil_iff_length_eq_zero]
    rfl
  rw [toStringSlice, if_pos hout, texts, printAll_append, printAll_append, Access.bind_bind,
    Access.bind_bind]
  dsimp only
  rw [printIf_eq]
  simp only [decide_eq_true_eq, hempty]
  refine Access.bind_congr fun p₁ hrun₁ => ?_
  rw [printSlices_eq (printAll_le (Nat.zero_le _) hrun₁)]
  exact Access.bind_congr fun p₂ _ => by rw [printUes_eq]

/-! ## None of the texts has a NUL -/

theorem noNul_schedHeader (tstamp : Int64) (schedName : Arr Octet) :
    NoNul (schedHeader tstamp schedName) := by
  simp only [schedHeader, noNul_append]
  exact ⟨⟨⟨by decide, noNul_signed _⟩, by decide⟩, noNul_string _⟩

theorem noNul_confHeader (tstamp : Int64) (lenSlices : UInt32) :
    NoNul (confHeader tstamp lenSlices) := by
  simp only [confHeader, noNul_append]
  exact ⟨⟨⟨by decide, noNul_signed _⟩, by decide⟩, noNul_decimal _⟩

theorem noNul_ueHeader (lenUeSlice : UInt32) : NoNul (ueHeader lenUeSlice) :=
  noNul_append.mpr ⟨by decide, noNul_decimal _⟩

theorem noNul_ueRecord (i : Nat) (u : UeSliceAssoc) : NoNul (ueRecord i u) := by
  simp only [ueRecord, noNul_append]
  exact ⟨⟨⟨⟨⟨by decide, noNul_decimal _⟩, by decide⟩, noNul_hex _⟩, by decide⟩, noNul_signed _⟩

theorem noNul_sliceTexts {tstamp : Int64} {len : UInt32} {i : Nat} {slices : List FrSlice} :
    ∀ t ∈ sliceTexts tstamp len i slices, NoNul t := by
  induction slices generalizing i with
  | nil => exact fun t ht => nomatch ht
  | cons s slices ih =>
    intro t ht
    obtain ht | ht := List.mem_append.mp ht
    · obtain ht | ht := List.mem_append.mp ht
      · split at ht
        · exact List.mem_singleton.mp ht ▸ noNul_confHeader tstamp len
        · cases ht
      · exact noNul_sliceRecord (Option.mem_toList.mp ht)
    · exact ih t ht

theorem noNul_ueTexts {len : UInt32} {i : Nat} {ues : List UeSliceAssoc} :
    ∀ t ∈ ueTexts len i ues, NoNul t := by
  induction ues generalizing i with
  | nil => exact fun t ht => nomatch ht
  | cons u ues ih =>
    intro t ht
    obtain ht | ht := List.mem_append.mp ht
    · obtain ht | ht := List.mem_append.mp ht
      · split at ht
        · exact List.mem_singleton.mp ht ▸ noNul_ueHeader len
        · cases ht
      · exact List.mem_singleton.mp ht ▸ noNul_ueRecord i u
    · exact ih t ht

variable {slice : SliceIndMsg} {tstamp : Int64}

theorem noNul_texts : ∀ t ∈ texts slice tstamp, NoNul t := by
  intro t ht
  obtain ht | ht := List.mem_append.mp ht
  · obtain ht | ht := List.mem_append.mp ht
    · split at ht
      · exact List.mem_singleton.mp ht ▸ noNul_schedHeader _ _
      · cases ht
    · exact noNul_sliceTexts t ht
  · exact noNul_ueTexts t ht

theorem noNul_flatten {ts : List (List Octet)} (h : ∀ t ∈ ts, NoNul t) : NoNul ts.flatten := by
  intro b hb
  obtain ⟨t, ht, hbt⟩ := List.mem_flatten.mp hb
  exact h t ht b hbt

/-! ## The texts are the record -/

/-- Of the slices after the first one. -/
theorem slicesText_succ (tstamp : Int64) (len : UInt32) {i : Nat} {slices : List FrSlice}
    (h : ∀ s ∈ slices, s.params.HasText) :
    slicesText (i + 1) slices = some (sliceTexts tstamp len (i + 1) slices).flatten := by
  induction slices generalizing i with
  | nil => rfl
  | cons s slices ih =>
    obtain ⟨t, ht⟩ := Option.isSome_iff_exists.mp
      (sliceRecord_isSome (i := i + 1) |>.mpr (h s List.mem_cons_self))
    have hrest := ih (i := i + 1) fun s hs => h s (List.mem_cons_of_mem _ hs)
    rw [slicesText, sliceTexts, ht, hrest, if_neg (Nat.succ_ne_zero i)]
    rfl

/-- A slice without a text. -/
theorem slicesText_none {i : Nat} {slices : List FrSlice}
    (h : ∃ s ∈ slices, ¬s.params.HasText) : slicesText i slices = none := by
  induction slices generalizing i with
  | nil =>
    obtain ⟨s, hs, -⟩ := h
    cases hs
  | cons s slices ih =>
    rw [slicesText]
    cases ht : sliceRecord i s with
    | none => rfl
    | some t =>
      obtain ⟨u, hu, hno⟩ := h
      obtain rfl | hu := List.mem_cons.mp hu
      · exact absurd (sliceRecord_isSome.mp (Option.isSome_of_mem ht)) hno
      · rw [ih ⟨u, hu, hno⟩]
        rfl

theorem uesText_succ {len : UInt32} {i : Nat} {ues : List UeSliceAssoc} :
    (ueTexts len (i + 1) ues).flatten = uesText (i + 1) ues := by
  induction ues generalizing i with
  | nil => rfl
  | cons u ues ih =>
    rw [ueTexts, uesText, if_neg (Nat.succ_ne_zero i), List.nil_append, List.flatten_append, ih]
    simp

theorem flatten_ueTexts {len : UInt32} {ues : List UeSliceAssoc} :
    (ueTexts len 0 ues).flatten = (if ues = [] then [] else ueHeader len) ++ uesText 0 ues := by
  cases ues with
  | nil => rfl
  | cons u ues =>
    rw [ueTexts, uesText, if_pos rfl, if_neg (List.cons_ne_nil _ _), List.flatten_append,
      uesText_succ]
    simp

/-- **The record** is what is printed, where each slice has a text. -/
theorem recordText_eq (h : ∀ s ∈ slice.sliceConf.dl.slices.items, s.params.HasText) :
    recordText slice tstamp = some ((texts slice tstamp).flatten ++ text "\n") := by
  rw [recordText, texts]
  rw [List.flatten_append, List.flatten_append, flatten_ueTexts]
  cases hitems : slice.sliceConf.dl.slices.items with
  | nil => simp [slicesText, sliceTexts]
  | cons s slices =>
    rw [hitems] at h
    obtain ⟨t, ht⟩ := Option.isSome_iff_exists.mp
      (sliceRecord_isSome (i := 0) |>.mpr (h s List.mem_cons_self))
    have hrest := slicesText_succ tstamp slice.sliceConf.dl.slices.len (i := 0)
      fun s hs => h s (List.mem_cons_of_mem _ hs)
    rw [slicesText, sliceTexts, ht, hrest]
    simp

theorem recordText_none (h : ¬∀ s ∈ slice.sliceConf.dl.slices.items, s.params.HasText) :
    recordText slice tstamp = none := by
  push Not at h
  rw [recordText]
  rw [slicesText_none h]
  rfl

/-- The printing into a buffer with nothing in it. -/
theorem printAll_texts (slice : SliceIndMsg) (tstamp : Int64) {out : List Octet} (hout : maxText ≤ out.length) :
    let ts := texts slice tstamp
    (shortTexts ts = ts → ts.flatten.length ≤ out.length →
      ∃ p', Printer.printAll ⟨out, 0⟩ ts = .done p' ∧ p'.Wrote ts.flatten out.length) ∧
    (shortTexts ts ≠ ts → (shortTexts ts).flatten.length ≤ out.length → out.length = maxText →
      Counted ts → toStringSlice slice tstamp out = .refused noSpace) ∧
    (¬((shortTexts ts).flatten.length ≤ out.length ∧ (shortTexts ts ≠ ts → out.length = maxText)) →
      toStringSlice slice tstamp out = .overwrite) := by
  have hstart : Printer.Wrote ⟨out, 0⟩ [] out.length := ⟨rfl, ⟨out, rfl⟩, rfl⟩
  have hnul : ∀ t ∈ texts slice tstamp, NoNul t := noNul_texts
  obtain ⟨hdone, hrefused, hover⟩ := hstart.printAll hout hnul
  rw [List.length_nil, Nat.zero_add] at hdone hrefused hover
  rw [toStringSlice_eq hout]
  refine ⟨hdone, fun hno hle heq hcounted => ?_, fun hno => ?_⟩
  · rw [hrefused hno hle heq hcounted]
    rfl
  · rw [hover hno]
    rfl

/-! ## A text that `snprintf` cannot count -/

theorem length_confHeader (tstamp : Int64) (lenSlices : UInt32) :
    1 < (confHeader tstamp lenSlices).length ∧ (confHeader tstamp lenSlices).length < maxText := by
  have hsigned := length_signed_le (k := 19) (by decide) (i := tstamp.toInt) (by
    have hlow := tstamp.le_toInt
    have hhigh := tstamp.toInt_lt
    omega)
  have hdecimal := length_decimal_le (k := 10) (by decide) (n := lenSlices.toNat) (by
    have hlt := lenSlices.toNat_lt
    omega)
  have hfirst : (text "slice_stats: tstamp=").length = 20 := rfl
  have hnext : (text ",slice_conf,dl,len_slices=").length = 26 := rfl
  have hmax : maxText = 2048 := rfl
  rw [confHeader]
  simp only [List.length_append]
  omega

theorem length_ueHeader (lenUeSlice : UInt32) :
    1 < (ueHeader lenUeSlice).length ∧ (ueHeader lenUeSlice).length < maxText := by
  have hdecimal := length_decimal_le (k := 10) (by decide) (n := lenUeSlice.toNat) (by
    have hlt := lenUeSlice.toNat_lt
    omega)
  have htext : (text ",ue_slice_conf,len_ue_slice=").length = 28 := rfl
  have hmax : maxText = 2048 := rfl
  rw [ueHeader, List.length_append]
  omega

/-- Nothing fits behind a scratch buffer full of characters, not even the end of the record. -/
theorem Printer.Wrote.ues_overwrite {p : Printer} {w : List Octet} {n : Nat} (h : p.Wrote w n)
    (hn : n = maxText) (hw : NoNul w) (hfull : n < w.length + 2) (len : UInt32)
    (ues : List UeSliceAssoc) :
    (p.printAll (ueTexts len 0 ues) >>= Printer.finish) = .overwrite := by
  cases ues with
  | nil => exact (h.finish hw).1 hfull
  | cons u ues =>
    obtain ⟨hpos, hlt⟩ := length_ueHeader len
    have hprint : p.print (ueHeader len) = .overwrite := by
      rw [h.print_short (Nat.le_of_eq hn.symm) (noNul_ueHeader len) hlt]
      exact h.put_overwrite (by omega)
    rw [ueTexts, if_pos rfl, List.append_assoc, List.singleton_append, Printer.printAll, hprint]
    rfl

/-- **A text of 2^31 characters or more** passes for a short one, and what it leaves in the
scratch buffer runs past the end, or the end of the record does. -/
theorem toStringSlice_uncounted {out : List Octet} (hout : out.length = maxText)
    (hno : ¬Counted (texts slice tstamp)) : toStringSlice slice tstamp out = .overwrite := by
  have hstart : Printer.Wrote ⟨out, 0⟩ [] out.length := ⟨rfl, ⟨out, rfl⟩, rfl⟩
  rw [toStringSlice_eq (Nat.le_of_eq hout.symm)]
  by_cases hempty : slice.sliceConf.dl.slices.items = []
  · have htexts : texts slice tstamp = schedHeader tstamp slice.sliceConf.dl.schedName ::
        ueTexts slice.ueSliceConf.ues.len 0 slice.ueSliceConf.ues.items := by
      rw [texts]
      simp [hempty, sliceTexts]
    have hnul : ∀ t ∈ texts slice tstamp, NoNul t := noNul_texts
    rw [htexts] at hno hnul ⊢
    have hheader := hnul _ List.mem_cons_self
    by_cases hlen : (schedHeader tstamp slice.sliceConf.dl.schedName).length < maxText
    · rw [hstart.printAll_uncounted hout hnul hno]
      · rfl
      · rw [shortTexts_cons hlen, List.flatten_cons, List.length_append, schedHeader]
        simp only [List.length_append]
        have hfirst : (text "slice_stats: tstamp=").length = 20 := rfl
        omega
    · rw [counted_long (Nat.le_of_not_lt hlen)] at hno
      have hcut : ((schedHeader tstamp slice.sliceConf.dl.schedName).take
          (out.length - 1)).length = out.length - 1 := by
        rw [List.length_take]
        omega
      obtain ⟨p, hput, h⟩ := hstart.put (t := (schedHeader tstamp
        slice.sliceConf.dl.schedName).take (out.length - 1)) (by rw [hcut]; simp)
      rw [Printer.printAll, hstart.print_uncounted hout hheader (Nat.le_of_not_lt hno), hput]
      refine h.ues_overwrite hout (fun b hb => hheader b (List.mem_of_mem_take hb)) ?_ _ _
      rw [List.nil_append, hcut]
      omega
  · obtain ⟨rest, htexts⟩ : ∃ rest, texts slice tstamp =
        confHeader tstamp slice.sliceConf.dl.slices.len :: rest := by
      obtain ⟨s, slices, hitems⟩ := List.exists_cons_of_ne_nil hempty
      rw [texts, hitems]
      exact ⟨_, rfl⟩
    obtain ⟨hpos, hlt⟩ := length_confHeader tstamp slice.sliceConf.dl.slices.len
    rw [hstart.printAll_uncounted hout noNul_texts hno]
    · rfl
    · rw [htexts, shortTexts_cons hlt, List.flatten_cons, List.length_append]
      omega

/-- **When the record is right**: exactly where there is room for it. -/
theorem slice_text (slice : SliceIndMsg) (tstamp : Int64) (out : List Octet)
    (hout : maxText ≤ out.length) :
    Recorded slice tstamp out ↔ Roomy slice tstamp out.length := by
  obtain ⟨hdone, hrefused, hover⟩ := printAll_texts slice tstamp hout
  have hrefuse (h : toStringSlice slice tstamp out = .refused noSpace) :
      Recorded slice tstamp out := by
    refine ⟨?_, fun out' hrun => ?_⟩ <;> rw [h] at *
    · exact fun heq => nomatch heq
    · cases hrun
  by_cases hall : shortTexts (texts slice tstamp) = texts slice tstamp
  · rw [Roomy]
    rw [if_pos hall]
    rw [hall] at hover
    by_cases hroom : (texts slice tstamp).flatten.length ≤ out.length
    · obtain ⟨p', hrun, h'⟩ := hdone hall hroom
      have heq : toStringSlice slice tstamp out = p'.finish := by
        rw [toStringSlice_eq hout, Access.bind_of_done hrun]
      obtain ⟨hshort, hlong, hfits⟩ := h'.finish (noNul_flatten noNul_texts)
      by_cases hend : (texts slice tstamp).flatten.length + 2 ≤ out.length
      · by_cases hmax : (texts slice tstamp).flatten.length + 1 < maxText
        · obtain ⟨out', hfin, htake⟩ := hfits hend hmax
          constructor
          · refine fun hrec => ⟨hend, fun _ => ?_⟩
            have hsome := hrec.2 out' (heq.trans hfin)
            by_contra hno
            rw [recordText_none hno] at hsome
            cases hsome
          · refine fun hroomy => ⟨?_, fun out₂ hrun₂ => ?_⟩
            · rw [heq, hfin]
              exact fun hno => nomatch hno
            · rw [heq, hfin] at hrun₂
              obtain rfl := Access.done_inj.mp hrun₂
              rw [recordText_eq (hroomy.2 hmax), htake]
        · exact iff_of_true (hrefuse (heq.trans (hlong hend (Nat.le_of_not_lt hmax))))
            ⟨hend, fun hno => absurd hno hmax⟩
      · refine iff_of_false (fun hrec => hrec.1 ?_) fun hroomy => hend hroomy.1
        rw [heq, hshort (Nat.lt_of_not_le hend)]
    · refine iff_of_false (fun hrec => hrec.1 (hover fun hno => hroom hno.1)) fun hroomy => hroom ?_
      exact Nat.le_trans (Nat.le_add_right _ _) hroomy.1
  · rw [Roomy]
    rw [if_neg hall]
    by_cases hroom : (shortTexts (texts slice tstamp)).flatten.length ≤ out.length ∧
        out.length = maxText
    · obtain ⟨hle, heq⟩ := hroom
      by_cases hcounted : Counted (texts slice tstamp)
      · exact iff_of_true (hrefuse (hrefused hall hle heq hcounted)) ⟨hle, heq, hcounted⟩
      · exact iff_of_false (fun hrec => hrec.1 (toStringSlice_uncounted heq hcounted))
          fun hroomy => hcounted hroomy.2.2
    · exact iff_of_false (fun hrec => hrec.1 (hover fun hno => hroom ⟨hno.1, hno.2 hall⟩))
        fun hroomy => hroom ⟨hroomy.1, hroomy.2.1⟩

/-- No slices, and a hundred UEs. -/
def hundredUes : SliceIndMsg where
  sliceConf := ⟨⟨⟨[], Arr.bound_nil⟩, ⟨[], Arr.bound_nil⟩⟩, ⟨⟨[], Arr.bound_nil⟩, ⟨[], Arr.bound_nil⟩⟩⟩
  ueSliceConf := ⟨⟨List.replicate 100 ⟨0, 0, 0xffff⟩, by decide⟩⟩
  tstamp := 0

/-- A slice of half the capacity, and one UE. -/
def oneUe : SliceIndMsg where
  sliceConf := ⟨⟨⟨[⟨7, ⟨text "s" ++ [0], by decide⟩, ⟨text "PF" ++ [0], by decide⟩,
    .nvs (.capacity 0x3F000000)⟩], by decide⟩, ⟨[], Arr.bound_nil⟩⟩, ⟨⟨[], Arr.bound_nil⟩, ⟨[], Arr.bound_nil⟩⟩⟩
  ueSliceConf := ⟨⟨[⟨0, 0, 0xffff⟩], by decide⟩⟩
  tstamp := 0

theorem slice_text_oneUe : Recorded oneUe 42 (List.replicate 2048 0) :=
  (slice_text oneUe 42 (List.replicate 2048 0) (Nat.le_of_eq List.length_replicate.symm)).mpr
    (by decide +kernel)

/-- The records of a hundred UEs do not fit. -/
theorem slice_text_hundredUes :
    ¬∀ (slice : SliceIndMsg) (tstamp : Int64) (out : List Octet), maxText ≤ out.length →
      Recorded slice tstamp out := by
  intro h
  have hout : maxText ≤ (List.replicate 2048 (0 : Octet)).length :=
    Nat.le_of_eq List.length_replicate.symm
  refine (h hundredUes 42 (List.replicate 2048 0) hout).1 ((printAll_texts hundredUes 42 hout).2.2 ?_)
  rw [List.length_replicate]
  decide +kernel

end Slice

end FlexRic
