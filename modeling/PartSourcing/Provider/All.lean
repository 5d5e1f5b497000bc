import PartSourcing.Config.Engine
import PartSourcing.Provider.BrokerBin
import PartSourcing.Provider.DigiKey
import PartSourcing.Provider.Ebay
import PartSourcing.Provider.Findchips
import PartSourcing.Provider.Mouser
import PartSourcing.Provider.Nexar

/-!
# The providers of a configuration

Which of the six sources take part, each with its section.
-/

namespace PartSourcing

/-- The provider of a source, if it has a section. -/
def SourceSections.provider? (s : SourceSections) : Source → Option Provider
  | .digiKey => s.digiKey.map DigiKey.provider
  | .mouser => s.mouser.map Mouser.provider
  | .nexar => s.nexar.map Nexar.provider
  | .brokerBin => s.brokerBin.map BrokerBin.provider
  | .ebay => s.ebay.map Ebay.provider
  | .findchips => s.findchips.map Findchips.provider

/-- **The providers that take part**, in the order of the sources. -/
def SourceSections.providers (s : SourceSections) : List Provider :=
  s.active.filterMap s.provider?

end PartSourcing
