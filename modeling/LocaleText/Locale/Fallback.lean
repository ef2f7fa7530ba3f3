import LocaleText.Locale.Identifier

/-!
# Which language stands in for a locale

Data for a language serve its regions and variants, too. A script that goes without saying in a
language, or in a region of it, is dropped; a locale in any other script shares no data with the
language, with one exception that the data name. Some languages and regions name another language
that serves them. The tables list the languages that have data; for all others nothing is to be
found whatever the tables say.
-/

namespace LocaleText

namespace LanguageId

/-- The language of no data. -/
def undetermined : Text := "und".toList

/-- Languages that are not written in Latin letters, by their script. -/
def scripts : List (String × String) :=
  [("Arab", "ar fa ks ps sd ug ur"), ("Armn", "hy"), ("Beng", "as bn"), ("Cans", "csw"),
   ("Cher", "chr"), ("Cyrl", "be bg kk ky mk mn ru sr uk"),
   ("Deva", "bho brx doi hi mr ne"), ("Ethi", "am ti"), ("Geor", "ka"), ("Grek", "el"),
   ("Gujr", "gu"), ("Guru", "pa"), ("Hebr", "he"), ("Knda", "kn"), ("Mlym", "ml"),
   ("Olck", "sat"), ("Orya", "or"), ("Sinh", "si"), ("Syrc", "syr"), ("Taml", "ta"),
   ("Telu", "te")]

/-- Regions in which a language is written in another script than elsewhere. -/
def regionScripts : List (String × String × String) :=
  [("az", "IQ", "Arab"), ("az", "IR", "Arab"), ("az", "RU", "Cyrl"), ("ha", "CM", "Arab"),
   ("ha", "SD", "Arab"), ("kk", "AF", "Arab"), ("kk", "CN", "Arab"), ("kk", "IR", "Arab"),
   ("kk", "MN", "Arab"), ("ku", "LB", "Arab"), ("ky", "CN", "Arab"), ("ky", "TR", "Latn"),
   ("mn", "CN", "Mong"), ("pa", "PK", "Arab"), ("sd", "IN", "Deva"), ("sr", "ME", "Latn"),
   ("sr", "RO", "Latn"), ("sr", "RU", "Latn"), ("sr", "TR", "Latn"), ("ug", "KZ", "Cyrl"),
   ("ug", "MN", "Cyrl"), ("uz", "AF", "Arab"), ("uz", "CN", "Cyrl")]

/-- The regions that share the Portuguese of Portugal. -/
def portugalRegions : List Text :=
  Text.pieces ' ' "PT AO CH CV FR GQ GW LU MO MZ ST TL".toList

/-- The script of a language in a region where that is not the one it has elsewhere. -/
def regionScript? (language region : Text) : Option Text :=
  (regionScripts.find? fun (l, r, _) => l.toList = language ∧ r.toList = region).map
    fun (_, _, script) => script.toList

/-- The script that goes without saying. -/
def defaultScript (language : Text) (region : Option Text) : Text :=
  let ofLanguage :=
    match scripts.find? fun (_, languages) =>
        (Text.pieces ' ' languages.toList).contains language with
    | some (script, _) => script.toList
    | none => "Latn".toList
  ((region.bind fun region => regionScript? language region)).getD ofLanguage

/-- The language whose data serve a language. -/
def parentLanguage (language : Text) : Text :=
  if language = "nb".toList ∨ language = "nn".toList then "no".toList
  else if language = "ht".toList then "fr".toList
  else language

/-- The language whose data serve a locale. -/
def dataLanguage (id : LanguageId) : Text :=
  match id.script.filter fun script => script ≠ defaultScript id.language id.region with
  | some script =>
    if id.language = "hi".toList ∧ script = "Latn".toList then "en".toList else undetermined
  | none =>
    match id.region with
    | none => parentLanguage id.language
    | some region =>
      if id.language = "pt".toList ∧ portugalRegions.contains region then "pt-PT".toList
      else if (regionScript? id.language region).isSome then undetermined
      else parentLanguage id.language

end LanguageId
end LocaleText
