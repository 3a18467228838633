import CrsExport.Unicode.CodePointSet
/-! Simple case folding. Characters with the same simple case folding form an orbit; a
character without other forms has none. -/

namespace CrsExport.Unicode.CaseFold

def runs : List (Nat × Nat × Nat × Nat) := [
  (0x41, 0x20, 1, 10), (0x4C, 0x20, 1, 7), (0x54, 0x20, 1, 7), (0xC0, 0x20, 1, 5),
  (0xC6, 0x20, 1, 17), (0xD8, 0x20, 1, 7), (0x100, 0x1, 2, 24), (0x132, 0x1, 2, 3),
  (0x139, 0x1, 2, 8), (0x14A, 0x1, 2, 23), (0x179, 0x1, 2, 3), (0x1A0, 0x1, 2, 3),
  (0x1CD, 0x1, 2, 8), (0x1DE, 0x1, 2, 9), (0x1F8, 0x1, 2, 20), (0x222, 0x1, 2, 9),
  (0x246, 0x1, 2, 5), (0x37B, 0x82, 1, 3), (0x388, 0x25, 1, 3), (0x39D, 0x20, 1, 3),
  (0x3D8, 0x1, 2, 12), (0x400, 0x50, 1, 16), (0x415, 0x20, 1, 9), (0x423, 0x20, 1, 7),
  (0x42B, 0x20, 1, 5), (0x464, 0x1, 2, 15), (0x48A, 0x1, 2, 27), (0x4C1, 0x1, 2, 7),
  (0x4D0, 0x1, 2, 48), (0x531, 0x30, 1, 38), (0x10A0, 0x1C60, 1, 38), (0x10D0, 0xBC0, 1, 43),
  (0x10FD, 0xBC0, 1, 3), (0x13A0, 0x97D0, 1, 80), (0x13F0, 0x8, 1, 6), (0x1E00, 0x1, 2, 48),
  (0x1E62, 0x1, 2, 26), (0x1EA0, 0x1, 2, 48), (0x1F00, 0x8, 1, 8), (0x1F10, 0x8, 1, 6),
  (0x1F20, 0x8, 1, 8), (0x1F30, 0x8, 1, 8), (0x1F40, 0x8, 1, 6), (0x1F51, 0x8, 2, 4),
  (0x1F60, 0x8, 1, 8), (0x1F72, 0x56, 1, 4), (0x1F80, 0x8, 1, 8), (0x1F90, 0x8, 1, 8),
  (0x1FA0, 0x8, 1, 8), (0x2160, 0x10, 1, 16), (0x24B6, 0x1A, 1, 26), (0x2C00, 0x30, 1, 48),
  (0x2C67, 0x1, 2, 3), (0x2C80, 0x1, 2, 50), (0xA640, 0x1, 2, 5), (0xA64C, 0x1, 2, 17),
  (0xA680, 0x1, 2, 14), (0xA722, 0x1, 2, 7), (0xA732, 0x1, 2, 31), (0xA77E, 0x1, 2, 5),
  (0xA796, 0x1, 2, 10), (0xA7B4, 0x1, 2, 8), (0xFF21, 0x20, 1, 26), (0x10400, 0x28, 1, 40),
  (0x104B0, 0x28, 1, 36), (0x10570, 0x27, 1, 11), (0x1057C, 0x27, 1, 15),
  (0x1058C, 0x27, 1, 7), (0x10C80, 0x40, 1, 51), (0x10D50, 0x20, 1, 22),
  (0x118A0, 0x20, 1, 32), (0x16E40, 0x20, 1, 32), (0x1E900, 0x22, 1, 34)]

def irregular : List String :=
  ["4B.6B.212A 53.73.17F B5.39C.3BC C5.E5.212B DF.1E9E FF.178 180.243 181.253 182.183 184.185",
   "186.254 187.188 189.256 18A.257 18B.18C 18E.1DD 18F.259 190.25B 191.192 193.260 194.263",
   "195.1F6 196.269 197.268 198.199 19A.23D 19B.A7DC 19C.26F 19D.272 19E.220 19F.275 1A6.280",
   "1A7.1A8 1A9.283 1AC.1AD 1AE.288 1AF.1B0 1B1.28A 1B2.28B 1B3.1B4 1B5.1B6 1B7.292 1B8.1B9",
   "1BC.1BD 1BF.1F7 1C4.1C5.1C6 1C7.1C8.1C9 1CA.1CB.1CC 1F1.1F2.1F3 1F4.1F5 23A.2C65 23B.23C",
   "23E.2C66 23F.2C7E 240.2C7F 241.242 244.289 245.28C 250.2C6F 251.2C6D 252.2C70 25C.A7AB",
   "261.A7AC 264.A7CB 265.A78D 266.A7AA 26A.A7AE 26B.2C62 26C.A7AD 271.2C6E 27D.2C64 282.A7C5",
   "287.A7B1 29D.A7B2 29E.A7B0 345.399.3B9.1FBE 370.371 372.373 376.377 37F.3F3 386.3AC 38C.3CC",
   "38E.3CD 38F.3CE 390.1FD3 391.3B1 392.3B2.3D0 393.3B3 394.3B4 395.3B5.3F5 396.3B6 397.3B7",
   "398.3B8.3D1.3F4 39A.3BA.3F0 39B.3BB 3A0.3C0.3D6 3A1.3C1.3F1 3A3.3C2.3C3 3A4.3C4 3A5.3C5",
   "3A6.3C6.3D5 3A7.3C7 3A8.3C8 3A9.3C9.2126 3AA.3CA 3AB.3CB 3B0.1FE3 3CF.3D7 3F2.3F9 3F7.3F8",
   "3FA.3FB 410.430 411.431 412.432.1C80 413.433 414.434.1C81 41E.43E.1C82 41F.43F 420.440",
   "421.441.1C83 422.442.1C84.1C85 42A.44A.1C86 460.461 462.463.1C87 4C0.4CF 10C7.2D27 10CD.2D2D",
   "1C88.A64A.A64B 1C89.1C8A 1D79.A77D 1D7D.2C63 1D8E.A7C6 1E60.1E61.1E9B 1F70.1FBA 1F71.1FBB",
   "1F76.1FDA 1F77.1FDB 1F78.1FF8 1F79.1FF9 1F7A.1FEA 1F7B.1FEB 1F7C.1FFA 1F7D.1FFB 1FB0.1FB8",
   "1FB1.1FB9 1FB3.1FBC 1FC3.1FCC 1FD0.1FD8 1FD1.1FD9 1FE0.1FE8 1FE1.1FE9 1FE5.1FEC 1FF3.1FFC",
   "2132.214E 2183.2184 2C60.2C61 2C72.2C73 2C75.2C76 2CEB.2CEC 2CED.2CEE 2CF2.2CF3 A779.A77A",
   "A77B.A77C A78B.A78C A790.A791 A792.A793 A794.A7C4 A7B3.AB53 A7C7.A7C8 A7C9.A7CA A7CC.A7CD",
   "A7D0.A7D1 A7D6.A7D7 A7D8.A7D9 A7DA.A7DB A7F5.A7F6 FB05.FB06 10594.105BB 10595.105BC"]

def expand : Nat × Nat × Nat × Nat → List (List Nat)
  | (first, distance, step, count) =>
    (List.range count).map fun i => [first + i * step, first + i * step + distance]

def orbits : List (List Nat) :=
  runs.flatMap expand ++
    (irregular.flatMap fun l => Text.words (text l)).map fun o =>
      (Text.splitWhen (· == '.') o).map hexValue

def close (s : CodePointSet) : CodePointSet :=
  s.union (.ofSpans ((orbits.filter (·.any s.contains)).flatMap (·.map fun n => (n, n))))

end CrsExport.Unicode.CaseFold
