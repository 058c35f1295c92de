import RecordStore.Text.Blank
import RecordStore.Text.CaseTable

namespace RecordStore.Text

/-! Full lower-casing: every capital letter becomes its partner, the dotted
capital I becomes two characters, and a capital sigma takes its final form at
the end of a word. -/

def isCased (c : Char) : Bool :=
  inRanges casedRanges c

def isCaseIgnorable (c : Char) : Bool :=
  inRanges caseIgnorableRanges c

def CaseRun.contains (run : CaseRun) (n : Nat) : Bool :=
  run.first ≤ n && n ≤ run.last && (n - run.first) % run.step == 0

def lowerChar (c : Char) : List Char :=
  if c.toNat < 0x80 then [c.toLower]
  else if c.toNat = 0x130 then ['i', '\u0307']
  else match caseRuns.find? (·.contains c.toNat) with
    | some run => [Char.ofNat (c.toNat + run.shift).toNat]
    | none => [c]

def meetsCased (cs : List Char) : Bool :=
  match cs.dropWhile isCaseIgnorable with
  | c :: _ => isCased c
  | [] => false

def lowerSigma (before after : List Char) : Char :=
  if meetsCased before && !meetsCased after then 'ς' else 'σ'

def lowerAfter (before : List Char) : List Char → List Char
  | [] => []
  | c :: rest =>
    (if c = 'Σ' then [lowerSigma before rest] else lowerChar c) ++
      lowerAfter (c :: before) rest

def lower (s : String) : String :=
  String.ofList (lowerAfter [] s.toList)

def lowerAscii (s : String) : String :=
  String.ofList (s.toList.map Char.toLower)

def equalUpToAsciiCase (s t : String) : Bool :=
  lowerAscii s == lowerAscii t

@[simp] theorem toList_lower (s : String) :
    (lower s).toList = lowerAfter [] s.toList :=
  String.toList_ofList

@[simp] theorem lowerAfter_nil (before : List Char) :
    lowerAfter before [] = [] := rfl

end RecordStore.Text
