import MarketFeed.Config.Basic

/-! The settings of a gateway that is given none. -/

namespace MarketFeed.GatewayConfig

def spot (base quote venueId : String) : SymbolConfig := ⟨base, quote, .spot, venueId⟩

def kucoin : ExchangeConfig where
  id := "kucoin"
  name := "KuCoin"
  enabled := true
  restUrl := "https://api.kucoin.com"
  wsUrl := "wss://ws-api-spot.kucoin.com/"
  headers := []
  account := none
  symbols := [spot "BTC" "USDT" "BTC-USDT", spot "ETH" "USDT" "ETH-USDT"]
  channels := [.book, .trades]
  books := {}

def vertex : ExchangeConfig where
  id := "vertex"
  name := "Vertex"
  enabled := true
  restUrl := "https://prod.vertexprotocol-backend.com"
  wsUrl := "wss://prod.vertexprotocol-backend.com/subscribe"
  headers := []
  account := none
  symbols := [spot "WBTC" "USDC" "1", spot "WETH" "USDC" "3"]
  channels := [.book, .trades]
  books := { snapshotDepth := 2 }

def default : GatewayConfig := ⟨[kucoin, vertex], {}⟩

end MarketFeed.GatewayConfig
