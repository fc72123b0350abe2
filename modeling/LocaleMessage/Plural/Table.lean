import LocaleMessage.Plural.Condition

/-!
The plural rules of the languages of the world. A language that is not listed has none. Rules on
compact exponents are left out, since numbers are written without them.
-/

namespace LocaleMessage.Plural

/-- The rules for quantities, each with the languages that share them. -/
def cardinalRules : List (List String × Rules) :=
  [
    (["af", "az", "bg", "brx", "chr", "ckb", "ee", "el", "eo", "eu", "fo", "ha", "hu", "ka", "kk",
      "ks", "ku", "ky", "lb", "ml", "mn", "mr", "nb", "ne", "nn", "no", "om", "or", "ps", "rm",
      "sd", "so", "sq", "st", "syr", "ta", "te", "tk", "tn", "tr", "ug", "uz", "xh"],
      [(.one, [[.is .n [(1, 1)]]])]),
    (["ast", "de", "en", "et", "fi", "fy", "ia", "ie", "lij", "nl", "sc", "sv", "sw", "ur"],
      [(.one, [[.is .i [(1, 1)], .is .v [(0, 0)]]])]),
    (["am", "as", "bn", "doi", "fa", "gu", "hi", "kn", "kok", "pcm", "tg", "vi", "zu"],
      [(.one, [[.is .i [(0, 0)]], [.is .n [(1, 1)]]])]),
    (["ak", "bho", "csw", "nso", "pa", "ti"],
      [(.one, [[.is .n [(0, 1)]]])]),
    (["ca", "gl", "it", "lld", "scn", "vec"],
      [(.one, [[.is .i [(1, 1)], .is .v [(0, 0)]]]),
        (.many, [[.isNot .i [(0, 0)], .mod .i 1000000 [(0, 0)], .is .v [(0, 0)]]])]),
    (["blo", "cv", "ksh"],
      [(.zero, [[.is .n [(0, 0)]]]),
        (.one, [[.is .n [(1, 1)]]])]),
    (["bs", "hr", "sr"],
      [(.one, [[.is .v [(0, 0)], .mod .i 10 [(1, 1)], .modNot .i 100 [(11, 11)]],
            [.mod .f 10 [(1, 1)], .modNot .f 100 [(11, 11)]]]),
        (.few, [[.is .v [(0, 0)], .mod .i 10 [(2, 4)], .modNot .i 100 [(12, 14)]],
            [.mod .f 10 [(2, 4)], .modNot .f 100 [(12, 14)]]])]),
    (["ceb", "fil"],
      [(.one, [[.is .v [(0, 0)], .is .i [(1, 1), (2, 2), (3, 3)]],
            [.is .v [(0, 0)], .modNot .i 10 [(4, 4), (6, 6), (9, 9)]],
            [.isNot .v [(0, 0)], .modNot .f 10 [(4, 4), (6, 6), (9, 9)]]])]),
    (["cs", "sk"],
      [(.one, [[.is .i [(1, 1)], .is .v [(0, 0)]]]),
        (.few, [[.is .i [(2, 4)], .is .v [(0, 0)]]]),
        (.many, [[.isNot .v [(0, 0)]]])]),
    (["dsb", "hsb"],
      [(.one, [[.is .v [(0, 0)], .mod .i 100 [(1, 1)]], [.mod .f 100 [(1, 1)]]]),
        (.two, [[.is .v [(0, 0)], .mod .i 100 [(2, 2)]], [.mod .f 100 [(2, 2)]]]),
        (.few, [[.is .v [(0, 0)], .mod .i 100 [(3, 4)]], [.mod .f 100 [(3, 4)]]])]),
    (["fr", "pt"],
      [(.one, [[.is .i [(0, 1)]]]),
        (.many, [[.isNot .i [(0, 0)], .mod .i 1000000 [(0, 0)], .is .v [(0, 0)]]])]),
    (["lv", "prg"],
      [(.zero, [[.mod .n 10 [(0, 0)]], [.mod .n 100 [(11, 19)]],
            [.is .v [(2, 2)], .mod .f 100 [(11, 19)]]]),
        (.one, [[.mod .n 10 [(1, 1)], .modNot .n 100 [(11, 11)]],
            [.is .v [(2, 2)], .mod .f 10 [(1, 1)], .modNot .f 100 [(11, 11)]],
            [.isNot .v [(2, 2)], .mod .f 10 [(1, 1)]]])]),
    (["ru", "uk"],
      [(.one, [[.is .v [(0, 0)], .mod .i 10 [(1, 1)], .modNot .i 100 [(11, 11)]]]),
        (.few, [[.is .v [(0, 0)], .mod .i 10 [(2, 4)], .modNot .i 100 [(12, 14)]]]),
        (.many, [[.is .v [(0, 0)], .mod .i 10 [(0, 0)]], [.is .v [(0, 0)], .mod .i 10 [(5, 9)]],
            [.is .v [(0, 0)], .mod .i 100 [(11, 14)]]])]),
    (["ar"],
      [(.zero, [[.is .n [(0, 0)]]]),
        (.one, [[.is .n [(1, 1)]]]),
        (.two, [[.is .n [(2, 2)]]]),
        (.few, [[.mod .n 100 [(3, 10)]]]),
        (.many, [[.mod .n 100 [(11, 99)]]])]),
    (["be"],
      [(.one, [[.mod .n 10 [(1, 1)], .modNot .n 100 [(11, 11)]]]),
        (.few, [[.mod .n 10 [(2, 4)], .modNot .n 100 [(12, 14)]]]),
        (.many, [[.mod .n 10 [(0, 0)]], [.mod .n 10 [(5, 9)]], [.mod .n 100 [(11, 14)]]])]),
    (["br"],
      [(.one, [[.mod .n 10 [(1, 1)], .modNot .n 100 [(11, 11), (71, 71), (91, 91)]]]),
        (.two, [[.mod .n 10 [(2, 2)], .modNot .n 100 [(12, 12), (72, 72), (92, 92)]]]),
        (.few, [[.mod .n 10 [(3, 4), (9, 9)], .modNot .n 100 [(10, 19), (70, 79), (90, 99)]]]),
        (.many, [[.isNot .n [(0, 0)], .mod .n 1000000 [(0, 0)]]])]),
    (["cy"],
      [(.zero, [[.is .n [(0, 0)]]]),
        (.one, [[.is .n [(1, 1)]]]),
        (.two, [[.is .n [(2, 2)]]]),
        (.few, [[.is .n [(3, 3)]]]),
        (.many, [[.is .n [(6, 6)]]])]),
    (["da"],
      [(.one, [[.is .n [(1, 1)]], [.isNot .t [(0, 0)], .is .i [(0, 0), (1, 1)]]])]),
    (["es"],
      [(.one, [[.is .n [(1, 1)]]]),
        (.many, [[.isNot .i [(0, 0)], .mod .i 1000000 [(0, 0)], .is .v [(0, 0)]]])]),
    (["ga"],
      [(.one, [[.is .n [(1, 1)]]]),
        (.two, [[.is .n [(2, 2)]]]),
        (.few, [[.is .n [(3, 6)]]]),
        (.many, [[.is .n [(7, 10)]]])]),
    (["gd"],
      [(.one, [[.is .n [(1, 1), (11, 11)]]]),
        (.two, [[.is .n [(2, 2), (12, 12)]]]),
        (.few, [[.is .n [(3, 10), (13, 19)]]])]),
    (["he"],
      [(.one, [[.is .i [(1, 1)], .is .v [(0, 0)]], [.is .i [(0, 0)], .isNot .v [(0, 0)]]]),
        (.two, [[.is .i [(2, 2)], .is .v [(0, 0)]]])]),
    (["hy"],
      [(.one, [[.is .i [(0, 0), (1, 1)]]])]),
    (["is"],
      [(.one, [[.is .t [(0, 0)], .mod .i 10 [(1, 1)], .modNot .i 100 [(11, 11)]],
            [.mod .t 10 [(1, 1)], .modNot .t 100 [(11, 11)]]])]),
    (["lt"],
      [(.one, [[.mod .n 10 [(1, 1)], .modNot .n 100 [(11, 19)]]]),
        (.few, [[.mod .n 10 [(2, 9)], .modNot .n 100 [(11, 19)]]]),
        (.many, [[.isNot .f [(0, 0)]]])]),
    (["mk"],
      [(.one, [[.is .v [(0, 0)], .mod .i 10 [(1, 1)], .modNot .i 100 [(11, 11)]],
            [.mod .f 10 [(1, 1)], .modNot .f 100 [(11, 11)]]])]),
    (["mt"],
      [(.one, [[.is .n [(1, 1)]]]),
        (.two, [[.is .n [(2, 2)]]]),
        (.few, [[.is .n [(0, 0)]], [.mod .n 100 [(3, 10)]]]),
        (.many, [[.mod .n 100 [(11, 19)]]])]),
    (["pl"],
      [(.one, [[.is .i [(1, 1)], .is .v [(0, 0)]]]),
        (.few, [[.is .v [(0, 0)], .mod .i 10 [(2, 4)], .modNot .i 100 [(12, 14)]]]),
        (.many, [[.is .v [(0, 0)], .isNot .i [(1, 1)], .mod .i 10 [(0, 1)]],
            [.is .v [(0, 0)], .mod .i 10 [(5, 9)]], [.is .v [(0, 0)], .mod .i 100 [(12, 14)]]])]),
    (["ro"],
      [(.one, [[.is .i [(1, 1)], .is .v [(0, 0)]]]),
        (.few, [[.isNot .v [(0, 0)]], [.is .n [(0, 0)]],
            [.isNot .n [(1, 1)], .mod .n 100 [(1, 19)]]])]),
    (["sat"],
      [(.one, [[.is .n [(1, 1)]]]),
        (.two, [[.is .n [(2, 2)]]])]),
    (["si"],
      [(.one, [[.is .n [(0, 0), (1, 1)]], [.is .i [(0, 0)], .is .f [(1, 1)]]])]),
    (["sl"],
      [(.one, [[.is .v [(0, 0)], .mod .i 100 [(1, 1)]]]),
        (.two, [[.is .v [(0, 0)], .mod .i 100 [(2, 2)]]]),
        (.few, [[.is .v [(0, 0)], .mod .i 100 [(3, 4)]], [.isNot .v [(0, 0)]]])])
  ]

/-- The rules for positions, each with the languages that share them. -/
def ordinalRules : List (List String × Rules) :=
  [
    (["fil", "fr", "ga", "hy", "lo", "ms", "ro", "vi"],
      [(.one, [[.is .n [(1, 1)]]])]),
    (["it", "lld", "sc", "vec"],
      [(.many, [[.is .n [(11, 11), (8, 8), (80, 80), (800, 800)]]])]),
    (["as", "bn"],
      [(.one, [[.is .n [(1, 1), (5, 5), (7, 7), (8, 8), (9, 9), (10, 10)]]]),
        (.two, [[.is .n [(2, 2), (3, 3)]]]),
        (.few, [[.is .n [(4, 4)]]]),
        (.many, [[.is .n [(6, 6)]]])]),
    (["gu", "hi"],
      [(.one, [[.is .n [(1, 1)]]]),
        (.two, [[.is .n [(2, 2), (3, 3)]]]),
        (.few, [[.is .n [(4, 4)]]]),
        (.many, [[.is .n [(6, 6)]]])]),
    (["kok", "mr"],
      [(.one, [[.is .n [(1, 1)]]]),
        (.two, [[.is .n [(2, 2), (3, 3)]]]),
        (.few, [[.is .n [(4, 4)]]])]),
    (["lij", "scn"],
      [(.many, [[.is .n [(11, 11), (8, 8), (80, 89), (800, 899)]]])]),
    (["af"],
      [(.few, [[.mod .i 100 [(2, 19)]]])]),
    (["az"],
      [(.one, [[.mod .i 10 [(1, 1), (2, 2), (5, 5), (7, 7), (8, 8)]],
            [.mod .i 100 [(20, 20), (50, 50), (70, 70), (80, 80)]]]),
        (.few, [[.mod .i 10 [(3, 3), (4, 4)]],
            [.mod .i 1000 [(100, 100), (200, 200), (300, 300), (400, 400), (500, 500),
              (600, 600), (700, 700), (800, 800), (900, 900)]]]),
        (.many, [[.is .i [(0, 0)]], [.mod .i 10 [(6, 6)]],
            [.mod .i 100 [(40, 40), (60, 60), (90, 90)]]])]),
    (["be"],
      [(.few, [[.mod .n 10 [(2, 2), (3, 3)], .modNot .n 100 [(12, 12), (13, 13)]]])]),
    (["bg"],
      [(.one, [[.mod .i 10 [(1, 1)], .modNot .i 100 [(11, 11)]]]),
        (.two, [[.mod .i 10 [(2, 2)], .modNot .i 100 [(12, 12)]]]),
        (.few, [[.mod .i 10 [(3, 3), (4, 4)], .modNot .i 100 [(13, 13), (14, 14)]]])]),
    (["blo"],
      [(.zero, [[.is .i [(0, 0)]]]),
        (.one, [[.is .i [(1, 1)]]]),
        (.few, [[.is .i [(2, 2), (3, 3), (4, 4), (5, 5), (6, 6)]]])]),
    (["ca"],
      [(.one, [[.is .n [(1, 1), (3, 3)]]]),
        (.two, [[.is .n [(2, 2)]]]),
        (.few, [[.is .n [(4, 4)]]])]),
    (["cy"],
      [(.zero, [[.is .n [(0, 0), (7, 7), (8, 8), (9, 9)]]]),
        (.one, [[.is .n [(1, 1)]]]),
        (.two, [[.is .n [(2, 2)]]]),
        (.few, [[.is .n [(3, 3), (4, 4)]]]),
        (.many, [[.is .n [(5, 5), (6, 6)]]])]),
    (["en"],
      [(.one, [[.mod .n 10 [(1, 1)], .modNot .n 100 [(11, 11)]]]),
        (.two, [[.mod .n 10 [(2, 2)], .modNot .n 100 [(12, 12)]]]),
        (.few, [[.mod .n 10 [(3, 3)], .modNot .n 100 [(13, 13)]]])]),
    (["es"],
      [(.one, [[.mod .n 10 [(1, 1), (3, 3)], .modNot .n 100 [(11, 11)]]])]),
    (["gd"],
      [(.one, [[.is .n [(1, 1), (11, 11)]]]),
        (.two, [[.is .n [(2, 2), (12, 12)]]]),
        (.few, [[.is .n [(3, 3), (13, 13)]]])]),
    (["hu"],
      [(.one, [[.is .n [(1, 1), (5, 5)]]])]),
    (["ka"],
      [(.one, [[.is .i [(1, 1)]]]),
        (.many, [[.is .i [(0, 0)]], [.mod .i 100 [(2, 20), (40, 40), (60, 60), (80, 80)]]])]),
    (["kk"],
      [(.many, [[.mod .n 10 [(6, 6)]], [.mod .n 10 [(9, 9)]],
            [.mod .n 10 [(0, 0)], .isNot .n [(0, 0)]]])]),
    (["mk"],
      [(.one, [[.mod .i 10 [(1, 1)], .modNot .i 100 [(11, 11)]]]),
        (.two, [[.mod .i 10 [(2, 2)], .modNot .i 100 [(12, 12)]]]),
        (.many, [[.mod .i 10 [(7, 7), (8, 8)], .modNot .i 100 [(17, 17), (18, 18)]]])]),
    (["ne"],
      [(.one, [[.is .n [(1, 4)]]])]),
    (["or"],
      [(.one, [[.is .n [(1, 1), (5, 5), (7, 9)]]]),
        (.two, [[.is .n [(2, 2), (3, 3)]]]),
        (.few, [[.is .n [(4, 4)]]]),
        (.many, [[.is .n [(6, 6)]]])]),
    (["sq"],
      [(.one, [[.is .n [(1, 1)]]]),
        (.many, [[.mod .n 10 [(4, 4)], .modNot .n 100 [(14, 14)]]])]),
    (["sv"],
      [(.one, [[.mod .n 10 [(1, 1), (2, 2)], .modNot .n 100 [(11, 11), (12, 12)]]])]),
    (["tk"],
      [(.few, [[.mod .n 10 [(6, 6), (9, 9)]], [.is .n [(10, 10)]]])]),
    (["uk"],
      [(.few, [[.mod .n 10 [(3, 3)], .modNot .n 100 [(13, 13)]]])])
  ]

/-- The rules of a language. -/
def rulesOfLanguage (type : PluralType) (language : String) : Rules :=
  let table := match type with
    | .cardinal => cardinalRules
    | .ordinal => ordinalRules
  ((table.find? fun entry => entry.1.contains language).map (·.2)).getD []

end LocaleMessage.Plural
