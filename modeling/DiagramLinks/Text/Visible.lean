import DiagramLinks.Text.Runs

namespace DiagramLinks.Text

/-- Runs of visible (`P`) and hidden (`E`) characters. -/
def visibleRuns : Runs := Runs.decode (String.join [
  "0EwP2nEyPcE1PgiE34P8E2P6E4P7E1P1E1PkE1P68E7P4mE1P12E2P1eE2P3E1aP1E1P1E2P1E2P1E9PrE4P6EhPaE",
  "bP1E1P1aElPgE1P2tE8P1E6P2E2P1E4PwE2P1E1PuEtP2hEbP1EeP17E9P7E3PoE4P1E9P1E3P1E7PfE1PpE5P1E1P",
  "bE5PwEgP16E1lP1jE1P1E1P4E8P4E1P3E7PaE2PtE1P2E1P8E2P2E2PmE1P7E1P1E3P4E3P1E1P2E6P2E2P2E1P1Ed",
  "P2E1P3E4PoE5P1E1P6E4P2E2PmE1P7E1P2E1P2E1P2E4P3EoP4E1P1E7PaE2P3E1P1EcP1E1P9E1P3E1PmE1P7E1P2",
  "E1P5E3P4E8P1E1P2E3P1EfP2E4PcE7P1E8P2E1P8E2P2E2PmE1P7E1P2E1P5E3P1E2P1E6P2E2P2EfP2E1P3E4PiEb",
  "P1E1P6E3P3E1P4E3P2E1P1E1P2E3P2E3P3E3PcE5P1E1P2E3P3E1P3E3P1ElPlE6P3E1P8E1P3E1PnE1PgE3P1E3P4",
  "EjP3E1P2E2P2E4PaE7PaE1PbE1P3E1PnE1PaE1P5E3P2E2P1E1P2EnP3E1P2E4PaE1P3EePbE1P3E1P15E2P1E1P2E",
  "5P3E1P3E1P2E4P3E1PaE4PqE2P2E1PiE3PoE1P9E1P1E2P7E9P2E6P7E7PaE2P3EcP1cE1P2EbP8E8PdE11P2E1P1E",
  "1P5E1PoE1P1E1PaE1P2E9P1E2P5E1P1E9PaE2P4EwPoE2PrE1P1E1P1E1PeE1P10EiP1E5P1E2P5E1dP8E1P6E1PdE",
  "11P19E4P1E6P1E2P2E2PpE2P4E3PgE4PdE1P2E2P6E1PfE1P14E1P1E5P1E2PahE1P4E2P7E1P1E1P4E2P15E1P4E2",
  "PxE1P4E2P7E1P1E1P4E2PfE1P1lE1P4E2P1vE5PtE3PqE6P2eE2P6E2PhsE1PsE3P2hE7PiEdPjE3P2E9PiEePdE1P",
  "3EfP1gE2P1E7P8E1P2EbP9E3PaE6PaE6PbE5PaE6P2hE7P5E2PyE1P1E5P1yEaPvE4P4E2P3E4P2E1P6E7P1E3P16E",
  "2P5EbP18E4PqE6PbE3P1lE2P2E3P1kE1P1E9P1E1P2E8P6EdPaE6PaE6PeE2eP1cEaP4E3P8E1PtE9PcE2PwE4P2E6",
  "P1kE1P1E2P3E1P1EdP1cE8P2E5PfE3P1qE5P17E2PbEbP1EdP1E7P4E1P6E1P3E2P1E5P5cE1sP7qE2P6E2P12E2P6",
  "E2P8E1P1E1P1E1P1E1PvE2P1hE1PfE1PeE2P6E1PjE2P3E1P9EhPoE8P1bEhP2E2PrE1PdE3PyE1qP3wE4PiiEmPbE",
  "lP1ecE2PahE3P2E5P19E1P1E5P1E2P1kE7P2EfPnE9P7E1P7E1P7E1P7E1P7E1P7E1P7E1P7ExP2mEyPqE1P2hEcP5",
  "yEqPgE1P15E6PgE1P2eE4P2tE5P17E1P2mE1P2eE9P1cE1PmlpE3P1jE9P9oEkP1bE4P1EaPwE2P28E2P6E8P65EkP",
  "hE1P3E1P4E1PpE2P5E4PaE6P1kE8P1wEaPcEoPdE1P12E8PpEbP1EcPuE6P1cE1P2E4P2E2P2E1PdE1PbE4P7E1PpE",
  "1P15E6P2E2P2EbP3E1P8E1P1E2PaE2PwE1P1fE1P1E3P2E2P5E2P1E1P1EoPhE2P8EbP6E2P6E2P6E9P7E1P7E1P1o",
  "E4P39E1P2E1P4E3PaE6P8mcEcPnE4P1dE6isPa6E2P2yE12P7EcP5E5P1E1PoE1P5E1P1E1P2E1P2E1Pi2EwPgEgPa",
  "EmPzE1PjE1P4E4P5E1P3rE4P4dE2PvE3P6E2P6E2P6E2P3E3P7E1P7EdP2E2PcE1PqE1PjE1P2E1PfE2PeEyP3fE5P",
  "3E4P19E3P2gE1PdE3P1E1bP19E3nPtE3P1dEgPrE4P10E9PuE5P12EaPuE1P11E4PeE16P4eE2PaE6P10E4P10E4P1",
  "4E8P1gEbPcE1PfE1P7E1P2E1PbE1PfE1P7E1P2E3P1gEcP8nE9PmEaP8EoP6E1P16E1P9E1xP6E2P1E1P18E1P2E3P",
  "1E2PnE1P20E8P9E1cPjE1P2E5PxE3PrE5PrE12P1kE4PkE2P1bEfP4E1P3E1PtEaP9E7P9E7P1sEwP11E6PcE9P1iE",
  "3PtE2PrE5PqE7P4EcP7E28P21E1jP1fEdP1fE7P16EcPaE6P12E8PoE8P2E5sPvE1P16E3P1E2P2EgP6E8P9E13P14",
  "E8PmEbP9EmPiE4P4E12PsEkPnE9P1E1P1iEfP7E4PuE1P2E2P1EcP1dE4P2E2P2E1P4EePpE7PaE9P10E5P1E9PiE8",
  "PzE1P3EbP1gE9P1E1P8E4P2E1PgE1PkEbPiE1PsE3P2E4P6E1P2E1rP7E1P1E1P4E1PfE1PbE6P1bE1P3EdPaE8P2E",
  "1P8E2P2E2PmE1P7E1P2E1P5E3P1E1P1E1P4E2P2E2P2E3P1EcP7EsPaE1P1E2P1E1P12E1P1E1P2EfP1E1P2E3P1E1",
  "P3E1P2E13P1kE8P2E3P1E1PlE1P1E1P3EuP1cE1P2E6P1E1P2E1P1E2P1E2P4E8PaE4mP1bE1P2E6P4E2P1E2PrE10",
  "P1fE8P2E1P1E2P4EbPaE6PdEjP17E1P1E1P2E8P2E6PaE6PkEsPrE3P1E1P2E4P1E9PnE55P1bE9P1E2P1E2sP2bEc",
  "P8E2P1E2P8E1P2E1PoE1P5E1P2E6P4E1P3E9PaE1yP8E2P16E8P4E1P4ErP1EaP14E6P2E4P8E9P1E6P2E3P1aEdP1",
  "E2P9EdP21E7PaE2fP1E3P1E1P1E2gPyEePaE6P9E1P12EeP1E1P6EaPtE3PwEpP1E7P1E2P1E23P7E1P2E1P12ElP1",
  "E9PaE6P6E1P2E1P11E4P2E1P1E1P1E7PaE6P18E4PaE6uPjE2P4E9PfE1P10E8P2E3PnE2eP1EfP1eEdPpnE2uP33E",
  "1P5EbP5gE218P2rEdPtsEhP6EpP32zE5Pg7E5a1PuEcP3E3PaE1c6PftE7PvE1PaE4P29E1PaE6PuE7P1EaP1cE7Pf",
  "EaPaE1P7E1PlE5PjEc0P1mE5iP2jE5PpE2PpE18P23E5P1kEbPdE1sP4EeP5E9P5p2E15PwE2pP37E6ppP4E1P7E1P",
  "2E1P83EfP1EtP3E2P1EeP4E8Pb0E1s4P2zE5PdE3P9E7PaE2P1E2P1E31cP71E3Pc4E6PnEfPhE2nP38E1oP6uEaP1",
  "3E2P1oE5P3EmP2E7PuE4P1pElP1uE3P1E3ePkEcPkEcP2fE9PpE3rP2dE1P1zE1P2E2P1E2P2E2P4E1PcE1P1E1P7E",
  "1P1tE1P4E2P8E1P7E1PsE1P4E1P5E1P1E3P7E1P9gE2P84E2PfmE1jP4E1eP8E1PeE1P7EvoPvE6P6E79P1qE42P19",
  "EaP7E2PaE4P2E8wPuEiP18E4PaE5P1EcwPsE4PaE5yPuE2PbE4P1E5cPvE1P3E1P2E1P7E2P5E9P2E68P7E1P4E1P2",
  "E1PfE1P5hE2P9E1cP1wE7P1E4PaE4P2EltP1wE24P1pE5eP4E1PrE1P2E1P1E2P1E1PaE1P4E1P1E1P1E6P1E4P1E1",
  "P1E1P1E1P3E1P2E1P1E2P1E1P1E1P1E1P1E1P1E1P2E1P1E2P4E1P7E1P4E1P4E1P1E1PaE1PhE5P3E1P5E1PhE1gP",
  "2E7iP18E4P2sEcPfE2PfE1PfE1P11EaP4uE1kPtEdP18E4P9E7P2EeP6E4aPrdE3PhE3PdE3P62E6PcE4P1EfPcE4P",
  "1kE8PaE6P14E8PuE2PcE4P2EeP9E13P9kE8PeE2PdE3PbE3P1lE1P1E4PgE2PcE4PaE7P43E1P2vEslPwyoEwP3dqE",
  "2P4geE2P5rlEfPhaE1wiPf2E15uP3t7E5P6juE"])

def isVisible (c : Char) : Bool :=
  visibleRuns.kindOf c == 'P'

end DiagramLinks.Text
