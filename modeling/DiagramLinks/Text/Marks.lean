import DiagramLinks.Text.Runs

namespace DiagramLinks.Text

/-- Runs of marks (`M`) and of all other characters (`O`). -/
def markRuns : Runs := Runs.decode (String.join [
  "0OlcM34O7nM7O7bM19O1M1O1M2O1M2O1M1O20MbO1cMlOgM1O2tM7O2M6O2M2O1M4OzM1OuMrO2jMbO1mM9O9M1OoM4O1M9O",
  "1M3O1M5O17M3O1nM9O16MoO1MxO1iM3O1MiO1M7OaM2OtM3O1kM1O1M7O2M2O2M3O9M1OaM2OqM1O2M3O1kM1O1M5O4M2O2M",
  "3O3M1OuM2O3M1ObM3O1kM1O1M8O1M3O1M3OkM2OmM6O1M3O1kM1O1M7O2M2O2M3O7M3OaM2OuM1O1nM5O3M3O1M4O9M1O14M",
  "5O1jM1O1M7O1M3O1M4O7M2ObM2OtM3O1kM1O1M7O1M3O1M4O7M2ObM2OfM1OcM4O1jM2O1M7O1M3O1M4O9M1OaM2OtM3O1yM",
  "1O4M6O1M1O1M8OiM2O1pM1O2M7OcM8O2qM1O2M9ObM7O21M2OrM1O1M1O1M1O4M2O1dMkO1M2O5MbO1M10O9M1O2sMkOnM4O",
  "4M3O1M3O2M7O3M4OdMcO1M1OaM4OjjM3OqaM4OsM3OtM2OuM2O1sMwO9M1O19M3O1M1O39M2OyM1O3aMcO4McO63M5O1lMaO",
  "1MtO2M1O1cM1aO2McOkM5O1bMhO12M9OcM3OuMdO1kMeO1cMkO48M3O1MlO4M1O6M1O2M3O5iM1sOk0MxO2daM3O3xM1O2oM",
  "wOfeM6O2xM2On9wM4O1MaOwM2O28M2O7kM1O3M1O4M1OnM5O4M1O2bM2O1eMiOqMiOdM1O12M8OpMdO18M4O1bMeO10M1O1v",
  "MeOcM1O8M2O19M3O1eM1O1M3O2M2O5M2O1M1O15M5O5M2O6kM8O1M2Ofn4M1OkhMgOgMgOr1M1O6aM1O45M5O1aeM3O1M2O5",
  "M4O14M3O4M1O4lM2OfxM4O1tM5O8tM2O25M6O1yMbO1dM4O3eM3O1hMfO15M1O2M2OaM4O19MbO7M1O1pM3O10MeOgM2O18M",
  "1OcM3O1cMeO8M4O1M2O2kMcO6M1O2M1O4dMcOlM4O1jM2O1M7O2M2O2M3O9M1OaM2O2M7O3M5O1vM9O1M1O2M1O1M4O1M5O1",
  "M1OeM2O2aMiOnM1O29MkO6jM7O2M9OrM2O2aMhO2yMdO2tMfO74MfO6tM6O1M2O2M4O1M1O1M2O3xM7O2M7O3M1OsMaO14M7",
  "O1M4O8M1O9MbO1aMgO5iM8O5jM8O1M8O2aMmO1MeO3eM6O3M1O1M2O1M7O1M1O1uM5O1M2O1M5O9nM4O9M2O1M1O1cM7O3M5",
  "OnM1O44lM1O6MfO8ugMiO1xcM5O1nM7Ot4M1O1M1jO7M4O29M1ObM2Of57M2O3mpM1aO2MnOf2M5O3M6O8M8O2M7OuM4O44M",
  "3O1izM1jO4M1eO8M1OeM1OmM5O1MfO11sM7O1MhO2M7O1M2O1M5O2sM1O4gM7OafM1O1pM4Oe4M4O72M2O6rM1O2M1O7M2O5",
  "M1Od6M7O31M7OgzhxM6oO"])

/-- The first mark is U+0300. -/
def isMark (c : Char) : Bool :=
  0x300 ≤ c.toNat && markRuns.kindOf c == 'M'

end DiagramLinks.Text
