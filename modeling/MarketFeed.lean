import MarketFeed.Config.Default
import MarketFeed.Event.Codec
import MarketFeed.Gateway
import MarketFeed.Main
import MarketFeed.Proofs.Book.Depth
import MarketFeed.Proofs.Book.Quotes
import MarketFeed.Proofs.Table
import MarketFeed.Proofs.Book.Window
import MarketFeed.Proofs.Book.Sheet
import MarketFeed.Proofs.Book.Report
import MarketFeed.Proofs.Desk.Operation
import MarketFeed.Proofs.Desk.Effect
import MarketFeed.Proofs.Desk.Turn
import MarketFeed.Proofs.Desk.Independence
import MarketFeed.Proofs.Desk.Closing
import MarketFeed.Proofs.Desk.Agreement
import MarketFeed.Proofs.Desk.Convergence
import MarketFeed.Proofs.Desk.Requests
import MarketFeed.Proofs.Desk.Mirror
import MarketFeed.Proofs.Desk.Cursor
import MarketFeed.Proofs.Desk.Order
import MarketFeed.Proofs.Decimal.Rounding
import MarketFeed.Proofs.Venue.Overflow
import MarketFeed.Proofs.Venue.Books
import MarketFeed.Proofs.Venue.Balances
import MarketFeed.Proofs.Directory
import MarketFeed.Proofs.Registration
import MarketFeed.Proofs.Venue.Reading
import MarketFeed.Proofs.Desk.Frames
import MarketFeed.Proofs.Venue.Subscription
import MarketFeed.Proofs.Station
import MarketFeed.Proofs.Sharding
import MarketFeed.Proofs.Coverage
import MarketFeed.Proofs.Disconnection
import MarketFeed.Proofs.Gateway
import MarketFeed.Proofs.Startup
import MarketFeed.Proofs.Text.Digits
import MarketFeed.Proofs.Json.Literal
import MarketFeed.Proofs.Json.Escape
import MarketFeed.Proofs.Json.Tree
import MarketFeed.Proofs.Json.Printing
import MarketFeed.Proofs.Json.Reading
import MarketFeed.Proofs.Json.Kept
import MarketFeed.Proofs.Decimal.Encoding
import MarketFeed.Proofs.Event.Fields
import MarketFeed.Proofs.Event.RoundTrip
import MarketFeed.Proofs.Json.Quoting
import MarketFeed.Proofs.Venue.Quoting
import MarketFeed.Proofs.Text.Notation
import MarketFeed.Proofs.Decimal.Value
import MarketFeed.Proofs.Payload
import MarketFeed.Proofs.Decimal.Plain
import MarketFeed.Proofs.Decimal.Scientific
import MarketFeed.Proofs.Decimal.Scaled
import MarketFeed.Proofs.Bus.Lines
import MarketFeed.Proofs.Bus.Accounting
import MarketFeed.Proofs.Rest
import MarketFeed.Proofs.Session
import MarketFeed.Proofs.Reconnection
import MarketFeed.Proofs.Decimal.Halving
import MarketFeed.Proofs.Book.Touch
import MarketFeed.Proofs.Venue.Products
import MarketFeed.Proofs.Venue.Topics
import MarketFeed.Proofs.Sending
