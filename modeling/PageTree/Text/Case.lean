import PageTree.Text.CaseTable

/-!
# Letter case

`upper` and `lower` are the full case mappings of Unicode, applied character by character: a
character may become several, as when the sharp s is written in capitals.  The capital sigma alone
depends on its neighbours: it has a lower case of its own at the end of a word.
-/

namespace PageTree.Text

/-- Whether a run of a case table holds a character. -/
def CaseRun.holds (r : CaseRun) (n : Nat) : Bool :=
  r.first ≤ n && n ≤ r.last && (n - r.first) % r.step == 0

/-- The image of one character under the case mapping given by a table. -/
def mapCase (runs : List CaseRun) (expansions : List (Nat × List Nat)) (c : Char) : List Char :=
  let n := c.toNat
  match runs.find? (·.holds n) with
  | some r => [Char.ofNat (n + r.shift).toNat]
  | none =>
    match expansions.find? (·.1 == n) with
    | some (_, ns) => ns.map Char.ofNat
    | none => [c]

/-- The upper case of a character. -/
def upperChar (c : Char) : List Char :=
  if c.toNat < 128 then [c.toUpper] else mapCase upperRuns upperExpansions c

/-- The lower case of a character. -/
def lowerChar (c : Char) : List Char :=
  if c.toNat < 128 then [c.toLower] else mapCase lowerRuns lowerExpansions c

/-- A text in upper case. -/
def upper (s : String) : String :=
  String.ofList (s.toList.flatMap upperChar)

/-- Whether a character is passed over where the ends of words are found. -/
def isCaseIgnorable (c : Char) : Bool :=
  caseIgnorableRanges.any fun (a, b) => a ≤ c.toNat && c.toNat ≤ b

/-- Whether a character that is not passed over has case. -/
def isCased (c : Char) : Bool :=
  casedRanges.any fun (a, b) => a ≤ c.toNat && c.toNat ≤ b

/-- Whether a word goes on with the characters that follow. -/
def wordGoesOn (cs : List Char) : Bool :=
  (cs.dropWhile isCaseIgnorable).head?.any isCased

/-- Characters in lower case; `inWord` tells whether a word goes up to them. -/
def lowerChars (inWord : Bool) : List Char → List Char
  | [] => []
  | c :: cs =>
    let image :=
      if c = 'Σ' then [if inWord && !wordGoesOn cs then 'ς' else 'σ'] else lowerChar c
    image ++ lowerChars (if isCaseIgnorable c then inWord else isCased c) cs

/-- A text in lower case. -/
def lower (s : String) : String :=
  String.ofList (lowerChars false s.toList)

/-- A text whose first character is put in upper case. -/
def capitalize : List Char → List Char
  | [] => []
  | c :: cs => upperChar c ++ cs

/-- A text whose first character is put in lower case. -/
def uncapitalize : List Char → List Char
  | [] => []
  | c :: cs => lowerChar c ++ cs

end PageTree.Text
