import TickerTape.Accessor.Describe
import TickerTape.Accessor.Frames
import TickerTape.Engine.Scripted
import TickerTape.Foreign.Adapter
import TickerTape.Foreign.Scripted
import TickerTape.Main
import TickerTape.Proofs.ConcurrentCloses
import TickerTape.Proofs.FeedTypes
import TickerTape.Proofs.FirstFailure
import TickerTape.Proofs.Frames
import TickerTape.Proofs.LenientReading
import TickerTape.Proofs.MarkerCounts
import TickerTape.Proofs.MarkerFetches
import TickerTape.Proofs.MarkerRace
import TickerTape.Proofs.NameChecks
import TickerTape.Proofs.NameEdits
import TickerTape.Proofs.NameSlots
import TickerTape.Proofs.Overflows
import TickerTape.Proofs.ReversedReads
import TickerTape.Proofs.SmartReads
import TickerTape.Proofs.StatusNames
import TickerTape.Proofs.StreamIsolation
import TickerTape.Proofs.Watchlists
