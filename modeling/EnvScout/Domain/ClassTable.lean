/-!
The classes of characters that a domain name is judged by: the direction in which they are written,
and whether they join their neighbours. A range may run over characters that no name may have.
-/

namespace EnvScout.Domain

/-- What a character means for the direction of a text. -/
inductive Direction where
  | left
  | right
  | arabicLetter
  | arabicNumber
  | europeanNumber
  | europeanSeparator
  | europeanTerminator
  | commonSeparator
  | boundary
  | neutral
  /-- A mark, which goes with the character before it. -/
  | mark
  deriving DecidableEq

/-- Which neighbours a letter is joined to in writing. -/
inductive Joining where
  | none
  | before
  | after
  | both
  /-- The letters on both sides join as if the character were not there. -/
  | transparent
  deriving DecidableEq

namespace ClassTable

/-- All directions but those from the left and those of marks. -/
def directionRows : List (Nat × Nat × Direction) := [
  (0x21, 0x22, .neutral), (0x24, 0x24, .europeanTerminator), (0x26, 0x2A, .neutral),
  (0x2B, 0x2B, .europeanSeparator), (0x2C, 0x2C, .commonSeparator),
  (0x2D, 0x2D, .europeanSeparator), (0x2E, 0x2E, .commonSeparator), (0x30, 0x39, .europeanNumber),
  (0x3B, 0x60, .neutral), (0x7B, 0xA1, .neutral), (0xA2, 0xA5, .europeanTerminator),
  (0xA6, 0xAE, .neutral), (0xB0, 0xB1, .europeanTerminator), (0xB6, 0xD7, .neutral),
  (0xF7, 0xF7, .neutral), (0x2B9, 0x2BA, .neutral), (0x2C2, 0x2CF, .neutral),
  (0x2D2, 0x2ED, .neutral), (0x2EF, 0x2FF, .neutral), (0x375, 0x375, .neutral),
  (0x3F6, 0x3F6, .neutral), (0x58A, 0x58E, .neutral), (0x58F, 0x58F, .europeanTerminator),
  (0x5BE, 0x5F4, .right), (0x606, 0x607, .neutral), (0x608, 0x608, .arabicLetter),
  (0x609, 0x60A, .europeanTerminator), (0x60B, 0x60B, .arabicLetter),
  (0x60C, 0x60C, .commonSeparator), (0x60D, 0x60D, .arabicLetter), (0x60E, 0x60F, .neutral),
  (0x61B, 0x64A, .arabicLetter), (0x660, 0x669, .arabicNumber), (0x66A, 0x66A, .europeanTerminator),
  (0x66B, 0x66C, .arabicNumber), (0x66D, 0x6D5, .arabicLetter), (0x6DE, 0x6DE, .neutral),
  (0x6E5, 0x6E6, .arabicLetter), (0x6E9, 0x6E9, .neutral), (0x6EE, 0x6EF, .arabicLetter),
  (0x6F0, 0x6F9, .europeanNumber), (0x6FA, 0x7B1, .arabicLetter), (0x7C0, 0x7F5, .right),
  (0x7F6, 0x7F9, .neutral), (0x7FA, 0x85E, .right), (0x860, 0x8C9, .arabicLetter),
  (0x9F2, 0x9F3, .europeanTerminator), (0x9FB, 0x9FB, .europeanTerminator),
  (0xAF1, 0xAF1, .europeanTerminator), (0xBF3, 0xBF8, .neutral),
  (0xBF9, 0xBF9, .europeanTerminator), (0xBFA, 0xBFA, .neutral), (0xC78, 0xC7E, .neutral),
  (0xE3F, 0xE3F, .europeanTerminator), (0xF3A, 0xF3D, .neutral), (0x1390, 0x1399, .neutral),
  (0x1400, 0x1400, .neutral), (0x169B, 0x169C, .neutral), (0x17DB, 0x17DB, .europeanTerminator),
  (0x17F0, 0x180A, .neutral), (0x1940, 0x1945, .neutral), (0x19DE, 0x19FF, .neutral),
  (0x200C, 0x200D, .boundary), (0x2010, 0x2027, .neutral), (0x2030, 0x2032, .europeanTerminator),
  (0x2035, 0x2043, .neutral), (0x2044, 0x2044, .commonSeparator), (0x2045, 0x205E, .neutral),
  (0x20A0, 0x20C1, .europeanTerminator), (0x2104, 0x2129, .neutral),
  (0x212E, 0x212E, .europeanTerminator), (0x213A, 0x214D, .neutral), (0x218A, 0x2211, .neutral),
  (0x2212, 0x2212, .europeanSeparator), (0x2213, 0x2213, .europeanTerminator),
  (0x2214, 0x2335, .neutral), (0x237B, 0x2394, .neutral), (0x2396, 0x26AB, .neutral),
  (0x26AD, 0x27FF, .neutral), (0x2900, 0x2BFF, .neutral), (0x2CE5, 0x2CEA, .neutral),
  (0x2CF9, 0x2CFF, .neutral), (0x2E00, 0x3004, .neutral), (0x3008, 0x3020, .neutral),
  (0x3030, 0x3030, .neutral), (0x3037, 0x3037, .neutral), (0x303D, 0x303F, .neutral),
  (0x30A0, 0x30A0, .neutral), (0x30FB, 0x30FB, .neutral), (0x31C0, 0x31E5, .neutral),
  (0x4DC0, 0x4DFF, .neutral), (0xA490, 0xA4C6, .neutral), (0xA60D, 0xA60F, .neutral),
  (0xA673, 0xA67F, .neutral), (0xA700, 0xA721, .neutral), (0xA788, 0xA788, .neutral),
  (0xA828, 0xA82B, .neutral), (0xA838, 0xA839, .europeanTerminator), (0xA874, 0xA877, .neutral),
  (0xAB6A, 0xAB6B, .neutral), (0xFBB2, 0xFBC2, .arabicLetter), (0xFBC3, 0xFE46, .neutral),
  (0xFE73, 0xFE73, .arabicLetter), (0x10101, 0x10101, .neutral), (0x10140, 0x1018C, .neutral),
  (0x10190, 0x101A0, .neutral), (0x102E1, 0x102FB, .europeanNumber), (0x10800, 0x1091B, .right),
  (0x1091F, 0x1091F, .neutral), (0x10920, 0x10B35, .right), (0x10B39, 0x10B3F, .neutral),
  (0x10B40, 0x10CFF, .right), (0x10D00, 0x10D23, .arabicLetter), (0x10D30, 0x10D39, .arabicNumber),
  (0x10D40, 0x10D8F, .right), (0x10E60, 0x10E7E, .arabicNumber), (0x10E80, 0x10EB1, .right),
  (0x10EC2, 0x10EC7, .arabicLetter), (0x10ED0, 0x10ED8, .neutral), (0x10F00, 0x10F27, .right),
  (0x10F30, 0x10F59, .arabicLetter), (0x10F70, 0x10FF6, .right), (0x11052, 0x11065, .neutral),
  (0x11660, 0x1166C, .neutral), (0x11FD5, 0x11FDC, .neutral),
  (0x11FDD, 0x11FE0, .europeanTerminator), (0x11FE1, 0x11FF1, .neutral),
  (0x16FE2, 0x16FE2, .neutral), (0x1CC00, 0x1CEF0, .neutral), (0x1D1E9, 0x1D245, .neutral),
  (0x1D300, 0x1D356, .neutral), (0x1E2FF, 0x1E2FF, .europeanTerminator), (0x1E800, 0x1E95F, .right),
  (0x1EC71, 0x1ED3D, .arabicLetter), (0x1EEF0, 0x1F12F, .neutral), (0x1F16D, 0x1F16F, .neutral),
  (0x1F1AD, 0x1F1AD, .neutral), (0x1F260, 0x1FBFA, .neutral)]

/-- Letters that are joined to a neighbour. -/
def joiningRows : List (Nat × Nat × Joining) := [
  (0x620, 0x620, .both), (0x622, 0x625, .before), (0x626, 0x626, .both), (0x627, 0x627, .before),
  (0x628, 0x628, .both), (0x629, 0x629, .before), (0x62A, 0x62E, .both), (0x62F, 0x632, .before),
  (0x633, 0x63F, .both), (0x641, 0x647, .both), (0x648, 0x648, .before), (0x649, 0x64A, .both),
  (0x66E, 0x66F, .both), (0x671, 0x673, .before), (0x679, 0x687, .both), (0x688, 0x699, .before),
  (0x69A, 0x6BF, .both), (0x6C0, 0x6C0, .before), (0x6C1, 0x6C2, .both), (0x6C3, 0x6CB, .before),
  (0x6CC, 0x6CC, .both), (0x6CD, 0x6CD, .before), (0x6CE, 0x6CE, .both), (0x6CF, 0x6CF, .before),
  (0x6D0, 0x6D1, .both), (0x6D2, 0x6D3, .before), (0x6D5, 0x6D5, .before), (0x6EE, 0x6EF, .before),
  (0x6FA, 0x6FC, .both), (0x6FF, 0x6FF, .both), (0x710, 0x710, .before), (0x712, 0x714, .both),
  (0x715, 0x719, .before), (0x71A, 0x71D, .both), (0x71E, 0x71E, .before), (0x71F, 0x727, .both),
  (0x728, 0x728, .before), (0x729, 0x729, .both), (0x72A, 0x72A, .before), (0x72B, 0x72B, .both),
  (0x72C, 0x72C, .before), (0x72D, 0x72E, .both), (0x72F, 0x74D, .before), (0x74E, 0x758, .both),
  (0x759, 0x75B, .before), (0x75C, 0x76A, .both), (0x76B, 0x76C, .before), (0x76D, 0x770, .both),
  (0x771, 0x771, .before), (0x772, 0x772, .both), (0x773, 0x774, .before), (0x775, 0x777, .both),
  (0x778, 0x779, .before), (0x77A, 0x77F, .both), (0x7CA, 0x7EA, .both), (0x840, 0x840, .before),
  (0x841, 0x845, .both), (0x846, 0x847, .before), (0x848, 0x848, .both), (0x849, 0x849, .before),
  (0x84A, 0x853, .both), (0x854, 0x854, .before), (0x855, 0x855, .both), (0x856, 0x858, .before),
  (0x860, 0x860, .both), (0x862, 0x865, .both), (0x867, 0x867, .before), (0x868, 0x868, .both),
  (0x869, 0x882, .before), (0x886, 0x886, .both), (0x889, 0x88D, .both), (0x88E, 0x88E, .before),
  (0x88F, 0x8A9, .both), (0x8AA, 0x8AC, .before), (0x8AE, 0x8AE, .before), (0x8AF, 0x8B0, .both),
  (0x8B1, 0x8B2, .before), (0x8B3, 0x8B8, .both), (0x8B9, 0x8B9, .before), (0x8BA, 0x8C8, .both),
  (0x1807, 0x1807, .both), (0x1820, 0x1878, .both), (0x1887, 0x18AA, .both),
  (0xA840, 0xA871, .both), (0xA872, 0xA872, .after), (0x10AC0, 0x10AC4, .both),
  (0x10AC5, 0x10AC5, .before), (0x10AC7, 0x10AC7, .before), (0x10AC9, 0x10ACA, .before),
  (0x10ACD, 0x10ACD, .after), (0x10ACE, 0x10AD2, .before), (0x10AD3, 0x10AD6, .both),
  (0x10AD7, 0x10AD7, .after), (0x10AD8, 0x10ADC, .both), (0x10ADD, 0x10ADD, .before),
  (0x10ADE, 0x10AE0, .both), (0x10AE1, 0x10AE1, .before), (0x10AE4, 0x10AE4, .before),
  (0x10AEB, 0x10AEE, .both), (0x10AEF, 0x10AEF, .before), (0x10B80, 0x10B80, .both),
  (0x10B81, 0x10B81, .before), (0x10B82, 0x10B82, .both), (0x10B83, 0x10B85, .before),
  (0x10B86, 0x10B88, .both), (0x10B89, 0x10B89, .before), (0x10B8A, 0x10B8B, .both),
  (0x10B8C, 0x10B8C, .before), (0x10B8D, 0x10B8D, .both), (0x10B8E, 0x10B8F, .before),
  (0x10B90, 0x10B90, .both), (0x10B91, 0x10B91, .before), (0x10BA9, 0x10BAC, .before),
  (0x10BAD, 0x10BAE, .both), (0x10D00, 0x10D00, .after), (0x10D01, 0x10D21, .both),
  (0x10D22, 0x10D22, .before), (0x10D23, 0x10D23, .both), (0x10EC2, 0x10EC2, .before),
  (0x10EC3, 0x10EC4, .both), (0x10EC6, 0x10EC7, .both), (0x10F30, 0x10F32, .both),
  (0x10F33, 0x10F33, .before), (0x10F34, 0x10F44, .both), (0x10F51, 0x10F53, .both),
  (0x10F54, 0x10F54, .before), (0x10F70, 0x10F73, .both), (0x10F74, 0x10F75, .before),
  (0x10F76, 0x10F81, .both), (0x10FB0, 0x10FB0, .both), (0x10FB2, 0x10FB3, .both),
  (0x10FB4, 0x10FB6, .before), (0x10FB8, 0x10FB8, .both), (0x10FB9, 0x10FBA, .before),
  (0x10FBB, 0x10FBC, .both), (0x10FBD, 0x10FBD, .before), (0x10FBE, 0x10FBF, .both),
  (0x10FC1, 0x10FC1, .both), (0x10FC2, 0x10FC3, .before), (0x10FC4, 0x10FC4, .both),
  (0x10FC9, 0x10FC9, .before), (0x10FCA, 0x10FCA, .both), (0x10FCB, 0x10FCB, .after),
  (0x1E922, 0x1E943, .both), (0x1E94B, 0x1E94B, .transparent)]

end ClassTable

end EnvScout.Domain
