import FloodUp.App.Primitives

/-!
# `AppLocalizations` and the locale files

The texts of `assets/locale` that a result about the app depends on: the two answers of the
alert question, the labels of the categories, and the text that is shared.
-/

namespace FloodUp

open Async

/-- The entries of `floodup_<languageCode>.json`. -/
def localizedStrings : Locale → List (String × String)
  | .en =>
    [("yes_title", "Yes"), ("no_title", "No"),
     ("category_all", "All Categories"),
     ("category_floods", "Floods/Heavy rain"),
     ("category_storm", "Storms/Lightning/Hail"),
     ("category_landslide", "Landslides/Rockfalls"),
     ("category_seastorm", "Sea storms"),
     ("category_snowfalls", "Snowfalls"),
     ("category_droughts", "Droughts/Inland water"),
     ("category_forestfire", "Forest fires"),
     ("category_windstorm", "Windstorms/Tornadoes/Waterspouts"),
     ("category_other", "Other (clouds, fogs, etc.)"),
     ("category_adaptation", "Adaptation measures"),
     ("category_badpractice", "Bad practices"),
     ("share_text", "Take a look at the observation I've just posted at Floodup App! Download it and you'll be able to publish and discover meteorological events.\nDownload at: ")]
  | .fr =>
    [("yes_title", "Oui"), ("no_title", "Non"),
     ("category_all", "Toutes les Catégories"),
     ("category_floods", "Inondations/Pluies intenses"),
     ("category_storm", "Orages/Foudre/grêle"),
     ("category_landslide", "Mouvements de terrain/Éboulements"),
     ("category_seastorm", "Tempêtes en mer"),
     ("category_snowfalls", "Chutes de neige"),
     ("category_droughts", "Sécheresses/Masses d'eau de surface continentale"),
     ("category_forestfire", "Feux de forêt"),
     ("category_windstorm", "Tempêtes de vent/Tornades/Trombes marines"),
     ("category_other", "Autres (nuages, brouillard, ...)"),
     ("category_adaptation", "Mesures d’adaptation"),
     ("category_badpractice", "Mauvaises pratiques"),
     ("share_text", "Regardez l'observation que je viens de poster sur Floodup! Téléchargez-le et vous pourrez publier et découvrir des événements météorologiques près de chez vous.\nTélécharger à:\u00a0")]
  | .es =>
    [("yes_title", "Sí"), ("no_title", "No"),
     ("category_all", "Todas las categorías"),
     ("category_floods", "Inundaciones/Lluvias intensas"),
     ("category_storm", "Tormentas/Rayos/Granizo"),
     ("category_landslide", "Deslizamientos/Desprendimientos"),
     ("category_seastorm", "Temporales de mar"),
     ("category_snowfalls", "Nevadas"),
     ("category_droughts", "Sequías/Masas de agua continentales "),
     ("category_forestfire", "Incendios forestales"),
     ("category_windstorm", "Temporales de viento/Tornados/Trombas marinas"),
     ("category_other", "Otros (nubes, niebla,…)"),
     ("category_adaptation", "Medidas de adaptación"),
     ("category_badpractice", "Malas prácticas"),
     ("share_text", "Mira la observación que acabo de publicar en Floodup! Descárgatela y podrás publicar y descubrir eventos meteorológicos cerca de ti.\nBájatela aquí: ")]
  | .ca =>
    [("yes_title", "Sí"), ("no_title", "No"),
     ("category_all", "Totes les Categories"),
     ("category_floods", "Inundacions/Pluges intenses"),
     ("category_storm", "Tempestes/Llamps/Pedra"),
     ("category_landslide", "Esllavissades/Despreniments"),
     ("category_seastorm", "Temporals de mar"),
     ("category_snowfalls", "Nevades "),
     ("category_droughts", "Sequeres/Masses d’aigua continentals"),
     ("category_forestfire", "Incendis forestals"),
     ("category_windstorm", "Temporals de vent/Tornados/Mànegues"),
     ("category_other", "Altres (núvols, boira,…)"),
     ("category_adaptation", "Mesures d’adaptació"),
     ("category_badpractice", "Males pràctiques"),
     ("share_text", "Fes una ullada a l’observació que acabo de publicar a Floodup! Baixeu-te-la i podràs publicar i descobrir esdeveniments meteorològics a prop teu.\nDescarregate-la aquí: ")]

/-- `AppLocalizations.translate`. -/
def translate (locale : Locale) (key : String) : String :=
  ((localizedStrings locale).lookup key).getD ""

/-- `AppLocalizations.of(context).translate(key)`. -/
def translated (me : Caller) (key : String) : Dart String := do
  withContext me
  let w ← Routine.get
  return translate w.locale key

/-- In every language the two answers read differently. -/
theorem translate_yes_ne_no (locale : Locale) :
    translate locale "yes_title" ≠ translate locale "no_title" := by
  cases locale <;> simp [translate, localizedStrings, List.lookup_cons]

end FloodUp
