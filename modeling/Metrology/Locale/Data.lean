import Metrology.Locale.Basic
import Metrology.Locale.Identifier

/-!
# Locale data

How the known locales write numbers, the former and longer codes of languages and territories, and
the identifiers in full that stand for shorter ones.
-/

namespace Metrology

namespace Symbols

/-- The decimal comma with the point between groups. -/
def comma : Symbols where
  decimal := ","
  group := "."

/-- The decimal comma with a space between groups. -/
def spaced (group : String) : Symbols where
  decimal := ","
  group := group

def swedish : Symbols := { spaced "\u00a0" with minus := "\u2212", exponential := "×10^" }
def finnish : Symbols := { spaced "\u00a0" with minus := "\u2212", notANumber := "epäluku" }
def russian : Symbols := { spaced "\u00a0" with notANumber := "не\u00a0число" }

def arabic : Symbols where
  minus := "\u200e-"
  plus := "\u200e+"
  notANumber := "ليس\u00a0رقمًا"

def persian : Symbols where
  minus := "\u200e\u2212"
  plus := "\u200e+"
  notANumber := "ناعدد"

def taiwanese : Symbols where
  notANumber := "非數值"

end Symbols

namespace Locale

/-- The known locales with their symbols. -/
def known : List (String × Symbols) :=
  [("root", {}), ("en", {}), ("en_001", {}), ("en_150", {}), ("en_US", {}), ("en_GB", {}),
   ("en_US_POSIX", { infinity := "INF" }),
   ("nl", .comma), ("nl_NL", .comma), ("nl_BE", .comma),
   ("de", .comma), ("de_DE", .comma), ("de_CH", { group := "\u2019" }),
   ("fr", .spaced "\u202f"), ("fr_FR", .spaced "\u202f"),
   ("pl", .spaced "\u00a0"), ("pl_PL", .spaced "\u00a0"),
   ("sv", .swedish), ("sv_SE", .swedish),
   ("fi", .finnish), ("fi_FI", .finnish),
   ("ru", .russian), ("ru_RU", .russian),
   ("ar", .arabic), ("ar_001", .arabic), ("ar_EG", .arabic),
   ("fa", .persian), ("fa_IR", .persian),
   ("zh", {}), ("zh_Hans", {}), ("zh_Hans_CN", {}),
   ("zh_Hant", .taiwanese), ("zh_Hant_TW", .taiwanese)]

/-- The codes of languages that have a shorter one. -/
def languageAliases : List (String × String) :=
  [("eng", "en"), ("nld", "nl"), ("dut", "nl"), ("deu", "de"), ("ger", "de"), ("fra", "fr"),
   ("fre", "fr"), ("pol", "pl"), ("swe", "sv"), ("fin", "fi"), ("rus", "ru"), ("ara", "ar"),
   ("arb", "ar"), ("fas", "fa"), ("per", "fa"), ("pes", "fa"), ("zho", "zh"), ("chi", "zh"),
   ("cmn", "zh")]

/-- The numbers, longer codes and former codes of territories. -/
def territoryAliases : List (String × String) :=
  [("840", "US"), ("USA", "US"), ("826", "GB"), ("GBR", "GB"), ("UK", "GB"), ("056", "BE"),
   ("BEL", "BE"), ("528", "NL"), ("NLD", "NL"), ("276", "DE"), ("278", "DE"), ("280", "DE"),
   ("DEU", "DE"), ("DD", "DE"), ("756", "CH"), ("CHE", "CH"), ("250", "FR"), ("249", "FR"),
   ("FRA", "FR"), ("FX", "FR"), ("616", "PL"), ("POL", "PL"), ("752", "SE"), ("SWE", "SE"),
   ("246", "FI"), ("FIN", "FI"), ("643", "RU"), ("810", "RU"), ("RUS", "RU"), ("SU", "RU"),
   ("818", "EG"), ("EGY", "EG"), ("364", "IR"), ("IRN", "IR"), ("158", "TW"), ("TWN", "TW"),
   ("156", "CN"), ("CHN", "CN")]

/-- Identifiers with the one in full that each most likely stands for. -/
def likely : List (String × LocaleParts) :=
  let full (language script territory : String) : LocaleParts :=
    { language := language, script := some script, territory := some territory }
  [("en", full "en" "Latn" "US"), ("en_Shaw", full "en" "Shaw" "GB"),
   ("nl", full "nl" "Latn" "NL"), ("de", full "de" "Latn" "DE"), ("fr", full "fr" "Latn" "FR"),
   ("pl", full "pl" "Latn" "PL"), ("sv", full "sv" "Latn" "SE"), ("fi", full "fi" "Latn" "FI"),
   ("ru", full "ru" "Cyrl" "RU"), ("ar", full "ar" "Arab" "EG"), ("fa", full "fa" "Arab" "IR"),
   ("zh", full "zh" "Hans" "CN"), ("zh_TW", full "zh" "Hant" "TW"),
   ("zh_Hant", full "zh" "Hant" "TW"),
   ("und", full "en" "Latn" "US"), ("und_BE", full "nl" "Latn" "BE"),
   ("und_NL", full "nl" "Latn" "NL"), ("und_DE", full "de" "Latn" "DE"),
   ("und_CH", full "de" "Latn" "CH"), ("und_FR", full "fr" "Latn" "FR"),
   ("und_PL", full "pl" "Latn" "PL"), ("und_SE", full "sv" "Latn" "SE"),
   ("und_FI", full "fi" "Latn" "FI"), ("und_RU", full "ru" "Cyrl" "RU"),
   ("und_EG", full "ar" "Arab" "EG"), ("und_IR", full "fa" "Arab" "IR"),
   ("und_TW", full "zh" "Hant" "TW"), ("und_CN", full "zh" "Hans" "CN"),
   ("und_Arab", full "ar" "Arab" "EG"), ("und_Cyrl", full "ru" "Cyrl" "RU"),
   ("und_Hans", full "zh" "Hans" "CN"), ("und_Hant", full "zh" "Hant" "TW")]

end Locale

end Metrology
