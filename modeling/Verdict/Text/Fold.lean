import Verdict.Text.Ranges

namespace Verdict

namespace Fold

-- The foldings of Unicode 16.
-- Each word pairs the characters of two runs: the two starts, then how many pairs, and a final `/2`
-- when only every second character takes part.
def pairTable : String :=
  "41-61x10 4C-6Cx8/2 4D-6Dx3/2 55-75x3/2 C0-E0x16/2 C1-E1x2/2 C7-E7x8/2 D9-F9x3/2 DF-1E9E FF-178
100-101x24/2 132-133x3/2 139-13Ax8/2 14A-14Bx23/2 179-17Ax3/2 180-243 181-253 182-183x2/2 186-254
187-188 189-256x2 18B-18C 18E-1DD 18F-259 190-25B 191-192 193-260 194-263 195-1F6 196-269 197-268
198-199 19A-23D 19B-A7DC 19C-26F 19D-272 19E-220 19F-275 1A0-1A1x3/2 1A6-280 1A7-1A8 1A9-283 1AC-1AD
1AE-288 1AF-1B0 1B1-28Ax2 1B3-1B4x2/2 1B7-292 1B8-1B9 1BC-1BD 1BF-1F7 1CD-1CEx8/2 1DE-1DFx9/2
1F4-1F5 1F8-1F9x20/2 222-223x9/2 23A-2C65 23B-23C 23E-2C66 23F-2C7Ex2 241-242 244-289 245-28C
246-247x5/2 250-2C6F 251-2C6D 252-2C70 25C-A7AB 261-A7AC 264-A7CB 265-A78D 266-A7AA 26A-A7AE
26B-2C62 26C-A7AD 271-2C6E 27D-2C64 282-A7C5 287-A7B1 29D-A7B2 29E-A7B0 370-371x2/2 376-377
37B-3FDx3 37F-3F3 386-3AC 388-3ADx3 38C-3CC 38E-3CDx2 391-3B1x2/2 394-3B4x2/2 397-3B7 39B-3BBx3/2
39E-3BE 3A4-3C4x2 3A7-3C7x2 3AA-3CAx2 3CF-3D7 3D8-3D9x12/2 3F2-3F9 3F7-3F8 3FA-3FB 400-450x16
410-430x2 413-433x7/2 416-436x4/2 420-440 423-443x7 42B-44Bx5 460-461 464-465x15/2 48A-48Bx27/2
4C0-4CF 4C1-4C2x7/2 4D0-4D1x48/2 531-561x38 10A0-2D00x38 10C7-2D27 10CD-2D2D 10D0-1C90x43
10FD-1CBDx3 13A0-AB70x80 13F0-13F8x6 1C89-1C8A 1D79-A77D 1D7D-2C63 1D8E-A7C6 1E00-1E01x48/2
1E62-1E63x26/2 1EA0-1EA1x48/2 1F00-1F08x8 1F10-1F18x6 1F20-1F28x8 1F30-1F38x8 1F40-1F48x6
1F51-1F59x4/2 1F60-1F68x8 1F70-1FBAx2 1F72-1FC8x4 1F76-1FDAx2 1F78-1FF8x2 1F7A-1FEAx2 1F7C-1FFAx2
1F80-1F88x8 1F90-1F98x8 1FA0-1FA8x8 1FB0-1FB8x2 1FB3-1FBC 1FC3-1FCC 1FD0-1FD8x2 1FE0-1FE8x2
1FE5-1FEC 1FF3-1FFC 2132-214E 2160-2170x16 2183-2184 24B6-24D0x26 2C00-2C30x48 2C60-2C61
2C67-2C68x3/2 2C72-2C73 2C75-2C76 2C80-2C81x50/2 2CEB-2CECx2/2 2CF2-2CF3 A640-A641x5/2
A64C-A64Dx17/2 A680-A681x14/2 A722-A723x7/2 A732-A733x31/2 A779-A77Ax2/2 A77E-A77Fx5/2 A78B-A78C
A790-A791x2/2 A794-A7C4 A796-A797x10/2 A7B3-AB53 A7B4-A7B5x8/2 A7C7-A7C8x2/2 A7CC-A7CD A7D0-A7D1
A7D6-A7D7x3/2 A7F5-A7F6 FF21-FF41x26 10400-10428x40 104B0-104D8x36 10570-10597x19/2 10571-10598x5/2
1057D-105A4x7/2 1058D-105B4x3/2 10595-105BC 10C80-10CC0x51 10D50-10D70x22 118A0-118C0x32
16E40-16E60x32 1E900-1E922x34 390-1FD3 3B0-1FE3 FB05-FB06"

-- Each word is a set of three or four characters that differ in case alone.
def groupTable : String :=
  "4B-6B-212A 53-73-17F B5-39C-3BC C5-E5-212B 1C4-1C5-1C6 1C7-1C8-1C9 1CA-1CB-1CC 1F1-1F2-1F3
345-399-3B9-1FBE 392-3B2-3D0 395-3B5-3F5 398-3B8-3D1-3F4 39A-3BA-3F0 3A0-3C0-3D6 3A1-3C1-3F1
3A3-3C2-3C3 3A6-3C6-3D5 3A9-3C9-2126 412-432-1C80 414-434-1C81 41E-43E-1C82 421-441-1C83
422-442-1C84-1C85 42A-44A-1C86 462-463-1C87 1C88-A64A-A64B 1E60-1E61-1E9B"

-- Code points from the first on, so many, every `step`-th one; the others lie `offset` away.
structure Run where
  start : Nat
  count : Nat
  step : Nat
  offset : Int
  deriving Repr

-- The code point paired with `code` by this run, if the run has it.
def Run.partner? (r : Run) (code : Nat) : Option Nat :=
  if r.start ≤ code ∧ (code - r.start) % r.step = 0 ∧ (code - r.start) / r.step < r.count then
    some ((code : Int) + r.offset).toNat
  else none

def readRun (w : List Char) : Run :=
  let start := ofHex (w.takeWhile (· ≠ '-'))
  let rest := (w.dropWhile (· ≠ '-')).drop 1
  let other := ofHex (rest.takeWhile fun c => c ≠ 'x')
  let tail := (rest.dropWhile fun c => c ≠ 'x').drop 1
  let count := (tail.takeWhile Char.isDigit).foldl (fun n c => n * 10 + (c.toNat - '0'.toNat)) 0
  ⟨start, if tail = [] then 1 else count, if tail.contains '/' then 2 else 1,
    (other : Int) - start⟩

-- Both directions of every pairing.
def pairRuns : List Run :=
  ((tableWords pairTable).map readRun).flatMap fun r =>
    [r, ⟨((r.start : Int) + r.offset).toNat, r.count, r.step, -r.offset⟩]

def groups : List (List Nat) :=
  (tableWords groupTable).map fun w =>
    ((w.splitBy fun a b => (a = '-') = (b = '-')).filter (· ≠ ['-'])).map ofHex

-- The characters that differ from this one in case alone, itself left out.
def variants (c : Char) : List Char :=
  let code := c.toNat
  let grouped := groups.flatMap fun g => if g.contains code then g.filter (· ≠ code) else []
  (pairRuns.filterMap (·.partner? code) ++ grouped).map Char.ofNat

end Fold

end Verdict
