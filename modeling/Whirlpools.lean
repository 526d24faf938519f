import Whirlpools.Types
import Whirlpools.TickArrayIndex
import Whirlpools.TickArraySequence
import Whirlpools.Sequence.Window
import Whirlpools.Sequence.Search
import Whirlpools.Sequence.Touched
import Whirlpools.Sequence.AnyWindow
import Whirlpools.Quote.SwapQuote
import Whirlpools.TokenExtensionUtil
import Whirlpools.TransferFee.Exclude
import Whirlpools.TransferFee.Include
import Whirlpools.Network.AccountCache
