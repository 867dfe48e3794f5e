/-
Capital letters.

A character is a capital if Unicode gives it the property Uppercase: the capital
letters of all scripts and the circled and Roman-numeral capitals, but not the
titlecase digraphs.
-/
import SpokenIndex.Text.CodeRange

namespace SpokenIndex.Text

/-- The non-ASCII capitals. -/
def capitalRuns : List CodeRun := [
  ⟨192, 214, 1, 0⟩, ⟨216, 222, 1, 0⟩, ⟨256, 310, 2, 0⟩, ⟨313, 327, 2, 0⟩, ⟨330, 376, 2, 0⟩,
  ⟨377, 381, 2, 0⟩, ⟨385, 386, 1, 0⟩, ⟨388, 390, 2, 0⟩, ⟨391, 395, 2, 0⟩, ⟨394, 394, 1, 0⟩,
  ⟨398, 401, 1, 0⟩, ⟨403, 404, 1, 0⟩, ⟨406, 408, 1, 0⟩, ⟨412, 413, 1, 0⟩, ⟨415, 416, 1, 0⟩,
  ⟨418, 422, 2, 0⟩, ⟨423, 425, 2, 0⟩, ⟨428, 430, 2, 0⟩, ⟨431, 439, 2, 0⟩, ⟨434, 434, 1, 0⟩,
  ⟨440, 440, 1, 0⟩, ⟨444, 444, 1, 0⟩, ⟨452, 452, 1, 0⟩, ⟨455, 455, 1, 0⟩, ⟨458, 458, 1, 0⟩,
  ⟨461, 475, 2, 0⟩, ⟨478, 494, 2, 0⟩, ⟨497, 497, 1, 0⟩, ⟨500, 562, 2, 0⟩, ⟨503, 503, 1, 0⟩,
  ⟨570, 571, 1, 0⟩, ⟨573, 574, 1, 0⟩, ⟨577, 581, 2, 0⟩, ⟨580, 590, 2, 0⟩, ⟨880, 882, 2, 0⟩,
  ⟨886, 886, 1, 0⟩, ⟨895, 895, 1, 0⟩, ⟨902, 910, 2, 0⟩, ⟨905, 905, 1, 0⟩, ⟨911, 939, 2, 0⟩,
  ⟨914, 928, 2, 0⟩, ⟨932, 938, 2, 0⟩, ⟨975, 975, 1, 0⟩, ⟨978, 980, 1, 0⟩, ⟨984, 1006, 2, 0⟩,
  ⟨1012, 1012, 1, 0⟩, ⟨1015, 1017, 2, 0⟩, ⟨1018, 1018, 1, 0⟩, ⟨1021, 1071, 1, 0⟩,
  ⟨1120, 1152, 2, 0⟩, ⟨1162, 1216, 2, 0⟩, ⟨1217, 1229, 2, 0⟩, ⟨1232, 1326, 2, 0⟩,
  ⟨1329, 1366, 1, 0⟩, ⟨4256, 4293, 1, 0⟩, ⟨4295, 4295, 1, 0⟩, ⟨4301, 4301, 1, 0⟩,
  ⟨5024, 5109, 1, 0⟩, ⟨7312, 7354, 1, 0⟩, ⟨7357, 7359, 1, 0⟩, ⟨7680, 7828, 2, 0⟩,
  ⟨7838, 7934, 2, 0⟩, ⟨7944, 7951, 1, 0⟩, ⟨7960, 7965, 1, 0⟩, ⟨7976, 7983, 1, 0⟩,
  ⟨7992, 7999, 1, 0⟩, ⟨8008, 8013, 1, 0⟩, ⟨8025, 8031, 2, 0⟩, ⟨8040, 8047, 1, 0⟩,
  ⟨8120, 8123, 1, 0⟩, ⟨8136, 8139, 1, 0⟩, ⟨8152, 8155, 1, 0⟩, ⟨8168, 8172, 1, 0⟩,
  ⟨8184, 8187, 1, 0⟩, ⟨8450, 8450, 1, 0⟩, ⟨8455, 8455, 1, 0⟩, ⟨8459, 8461, 1, 0⟩,
  ⟨8464, 8466, 1, 0⟩, ⟨8469, 8469, 1, 0⟩, ⟨8473, 8477, 1, 0⟩, ⟨8484, 8492, 2, 0⟩,
  ⟨8491, 8493, 2, 0⟩, ⟨8496, 8499, 1, 0⟩, ⟨8510, 8511, 1, 0⟩, ⟨8517, 8517, 1, 0⟩,
  ⟨8544, 8559, 1, 0⟩, ⟨8579, 8579, 1, 0⟩, ⟨9398, 9423, 1, 0⟩, ⟨11264, 11311, 1, 0⟩,
  ⟨11360, 11364, 2, 0⟩, ⟨11363, 11363, 1, 0⟩, ⟨11367, 11375, 2, 0⟩, ⟨11374, 11378, 2, 0⟩,
  ⟨11381, 11381, 1, 0⟩, ⟨11390, 11490, 2, 0⟩, ⟨11391, 11391, 1, 0⟩, ⟨11499, 11501, 2, 0⟩,
  ⟨11506, 11506, 1, 0⟩, ⟨42560, 42604, 2, 0⟩, ⟨42624, 42650, 2, 0⟩, ⟨42786, 42798, 2, 0⟩,
  ⟨42802, 42862, 2, 0⟩, ⟨42873, 42877, 2, 0⟩, ⟨42878, 42886, 2, 0⟩, ⟨42891, 42893, 2, 0⟩,
  ⟨42896, 42898, 2, 0⟩, ⟨42902, 42950, 2, 0⟩, ⟨42923, 42925, 2, 0⟩, ⟨42929, 42931, 2, 0⟩,
  ⟨42949, 42953, 2, 0⟩, ⟨42960, 42960, 1, 0⟩, ⟨42966, 42968, 2, 0⟩, ⟨42997, 42997, 1, 0⟩,
  ⟨65313, 65338, 1, 0⟩, ⟨66560, 66599, 1, 0⟩, ⟨66736, 66771, 1, 0⟩, ⟨66928, 66964, 2, 0⟩,
  ⟨66929, 66937, 2, 0⟩, ⟨66941, 66953, 2, 0⟩, ⟨66957, 66961, 2, 0⟩, ⟨66965, 66965, 1, 0⟩,
  ⟨68736, 68786, 1, 0⟩, ⟨71840, 71871, 1, 0⟩, ⟨93760, 93791, 1, 0⟩, ⟨119808, 119833, 1, 0⟩,
  ⟨119860, 119885, 1, 0⟩, ⟨119912, 119937, 1, 0⟩, ⟨119964, 119966, 2, 0⟩, ⟨119967, 119967, 1, 0⟩,
  ⟨119970, 119970, 1, 0⟩, ⟨119973, 119974, 1, 0⟩, ⟨119977, 119980, 1, 0⟩, ⟨119982, 119989, 1, 0⟩,
  ⟨120016, 120041, 1, 0⟩, ⟨120068, 120069, 1, 0⟩, ⟨120071, 120074, 1, 0⟩, ⟨120077, 120084, 1, 0⟩,
  ⟨120086, 120092, 1, 0⟩, ⟨120120, 120121, 1, 0⟩, ⟨120123, 120126, 1, 0⟩, ⟨120128, 120132, 1, 0⟩,
  ⟨120134, 120134, 1, 0⟩, ⟨120138, 120144, 1, 0⟩, ⟨120172, 120197, 1, 0⟩, ⟨120224, 120249, 1, 0⟩,
  ⟨120276, 120301, 1, 0⟩, ⟨120328, 120353, 1, 0⟩, ⟨120380, 120405, 1, 0⟩, ⟨120432, 120457, 1, 0⟩,
  ⟨120488, 120512, 1, 0⟩, ⟨120546, 120570, 1, 0⟩, ⟨120604, 120628, 1, 0⟩, ⟨120662, 120686, 1, 0⟩,
  ⟨120720, 120744, 1, 0⟩, ⟨120778, 120778, 1, 0⟩, ⟨125184, 125217, 1, 0⟩, ⟨127280, 127305, 1, 0⟩,
  ⟨127312, 127337, 1, 0⟩, ⟨127344, 127369, 1, 0⟩]

/-- Whether a character is a capital letter. -/
def isCapital (c : Char) : Bool :=
  if c.toNat < 128 then c.isUpper else capitalRuns.any (·.covers c.toNat)

/-- Whether a text begins with a capital letter. -/
def beginsWithCapital (s : String) : Bool :=
  match s.toList with
  | [] => false
  | c :: _ => isCapital c

end SpokenIndex.Text
