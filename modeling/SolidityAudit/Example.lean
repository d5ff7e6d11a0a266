/-!
# Example Contracts

Source texts to try the program with, each under the name by which it is asked
for. A name that is not known gives the first one.

## Main definitions

* `Example`: A name and a source text.
* `Example.all`: The examples in order.
* `Example.get`: The example of a name.
-/

namespace SolidityAudit

/-- A source text to try the program with. -/
structure Example where
  name : String
  source : String
deriving DecidableEq, Repr

namespace Example

/-- Lines of text, each ended. -/
def ofLines (lines : List String) : String :=
  String.join (lines.map (· ++ "\n"))

/-- A token with guarded arithmetic. -/
def simple : Example where
  name := "simple"
  source := ofLines [
    "// SPDX-License-Identifier: MIT",
    "pragma solidity ^0.8.0;",
    "",
    "contract SimpleToken \x7b",
    "    mapping(address => uint256) public balances;",
    "    uint256 public totalSupply;",
    "",
    "    event Transfer(address indexed from, address indexed to, uint256 amount);",
    "",
    "    function mint(uint256 amount) public \x7b",
    "        balances[msg.sender] += amount;",
    "        totalSupply += amount;",
    "    \x7d",
    "",
    "    function transfer(address to, uint256 amount) public \x7b",
    "        require(balances[msg.sender] >= amount, \"Insufficient balance\");",
    "        require(to != address(0), \"Invalid recipient\");",
    "",
    "        balances[msg.sender] -= amount;",
    "        balances[to] += amount;",
    "",
    "        emit Transfer(msg.sender, to, amount);",
    "    \x7d",
    "",
    "    function balanceOf(address account) public view returns (uint256) \x7b",
    "        return balances[account];",
    "    \x7d",
    "\x7d"]

/-- A token with an overflow, a reentrant withdrawal and an unchecked division. -/
def vulnerable : Example where
  name := "vulnerable"
  source := ofLines [
    "// SPDX-License-Identifier: MIT",
    "pragma solidity ^0.7.0;",
    "",
    "// WARNING: This contract has intentional vulnerabilities for testing",
    "contract VulnerableToken \x7b",
    "    mapping(address => uint256) public balances;",
    "",
    "    function deposit() public payable \x7b",
    "        balances[msg.sender] += msg.value;",
    "    \x7d",
    "",
    "    // VULNERABLE: No overflow protection in Solidity < 0.8",
    "    function unsafeAdd(uint256 a, uint256 b) public pure returns (uint256) \x7b",
    "        return a + b;",
    "    \x7d",
    "",
    "    // VULNERABLE: Reentrancy - external call before state update",
    "    function withdraw(uint256 amount) public \x7b",
    "        require(balances[msg.sender] >= amount, \"Insufficient\");",
    "",
    "        (bool success, ) = msg.sender.call\x7bvalue: amount\x7d(\"\");",
    "        require(success, \"Transfer failed\");",
    "",
    "        balances[msg.sender] -= amount;  // State update after external call!",
    "    \x7d",
    "",
    "    // VULNERABLE: Division without zero check",
    "    function divide(uint256 a, uint256 b) public pure returns (uint256) \x7b",
    "        return a / b;",
    "    \x7d",
    "\x7d"]

/-- A lending pool. -/
def lending : Example where
  name := "defi"
  source := ofLines [
    "// SPDX-License-Identifier: MIT",
    "pragma solidity ^0.8.0;",
    "",
    "import \"@openzeppelin/contracts/token/ERC20/IERC20.sol\";",
    "import \"@openzeppelin/contracts/security/ReentrancyGuard.sol\";",
    "",
    "contract SimpleLending is ReentrancyGuard \x7b",
    "    IERC20 public token;",
    "",
    "    mapping(address => uint256) public deposits;",
    "    mapping(address => uint256) public borrows;",
    "",
    "    uint256 public constant COLLATERAL_RATIO = 150; // 150%",
    "",
    "    constructor(address _token) \x7b",
    "        token = IERC20(_token);",
    "    \x7d",
    "",
    "    function deposit(uint256 amount) external nonReentrant \x7b",
    "        require(amount > 0, \"Amount must be positive\");",
    "        require(token.transferFrom(msg.sender, address(this), amount), \"Transfer failed\");",
    "        deposits[msg.sender] += amount;",
    "    \x7d",
    "",
    "    function borrow(uint256 amount) external nonReentrant \x7b",
    "        require(amount > 0, \"Amount must be positive\");",
    "        uint256 collateralValue = deposits[msg.sender];",
    "        uint256 maxBorrow = (collateralValue * 100) / COLLATERAL_RATIO;",
    "",
    "        require(borrows[msg.sender] + amount <= maxBorrow, \"Exceeds borrow limit\");",
    "",
    "        borrows[msg.sender] += amount;",
    "        require(token.transfer(msg.sender, amount), \"Transfer failed\");",
    "    \x7d",
    "",
    "    function repay(uint256 amount) external nonReentrant \x7b",
    "        require(amount > 0, \"Amount must be positive\");",
    "        require(amount <= borrows[msg.sender], \"Repay exceeds debt\");",
    "",
    "        require(token.transferFrom(msg.sender, address(this), amount), \"Transfer failed\");",
    "        borrows[msg.sender] -= amount;",
    "    \x7d",
    "",
    "    function withdraw(uint256 amount) external nonReentrant \x7b",
    "        require(amount > 0, \"Amount must be positive\");",
    "        require(amount <= deposits[msg.sender], \"Exceeds deposit\");",
    "",
    "        // Check if withdrawal maintains collateral ratio",
    "        uint256 remainingCollateral = deposits[msg.sender] - amount;",
    "        uint256 requiredCollateral = (borrows[msg.sender] * COLLATERAL_RATIO) / 100;",
    "        require(remainingCollateral >= requiredCollateral, \"Would under-collateralize\");",
    "",
    "        deposits[msg.sender] -= amount;",
    "        require(token.transfer(msg.sender, amount), \"Transfer failed\");",
    "    \x7d",
    "\x7d"]

/-- A collection of tokens with metadata. -/
def collection : Example where
  name := "nft"
  source := ofLines [
    "// SPDX-License-Identifier: MIT",
    "pragma solidity ^0.8.0;",
    "",
    "import \"@openzeppelin/contracts/token/ERC721/ERC721.sol\";",
    "import \"@openzeppelin/contracts/access/Ownable.sol\";",
    "import \"@openzeppelin/contracts/utils/Counters.sol\";",
    "",
    "contract SimpleNFT is ERC721, Ownable \x7b",
    "    using Counters for Counters.Counter;",
    "",
    "    Counters.Counter private _tokenIds;",
    "",
    "    uint256 public constant MAX_SUPPLY = 10000;",
    "    uint256 public constant MINT_PRICE = 0.05 ether;",
    "",
    "    string private _baseTokenURI;",
    "",
    "    constructor() ERC721(\"SimpleNFT\", \"SNFT\") \x7b\x7d",
    "",
    "    function mint() external payable \x7b",
    "        require(_tokenIds.current() < MAX_SUPPLY, \"Max supply reached\");",
    "        require(msg.value >= MINT_PRICE, \"Insufficient payment\");",
    "",
    "        _tokenIds.increment();",
    "        uint256 newTokenId = _tokenIds.current();",
    "",
    "        _safeMint(msg.sender, newTokenId);",
    "",
    "        // Refund excess payment",
    "        if (msg.value > MINT_PRICE) \x7b",
    "            uint256 refund = msg.value - MINT_PRICE;",
    "            (bool success, ) = msg.sender.call\x7bvalue: refund\x7d(\"\");",
    "            require(success, \"Refund failed\");",
    "        \x7d",
    "    \x7d",
    "",
    "    function setBaseURI(string memory baseURI) external onlyOwner \x7b",
    "        _baseTokenURI = baseURI;",
    "    \x7d",
    "",
    "    function _baseURI() internal view override returns (string memory) \x7b",
    "        return _baseTokenURI;",
    "    \x7d",
    "",
    "    function withdraw() external onlyOwner \x7b",
    "        uint256 balance = address(this).balance;",
    "        require(balance > 0, \"No funds to withdraw\");",
    "",
    "        (bool success, ) = owner().call\x7bvalue: balance\x7d(\"\");",
    "        require(success, \"Withdrawal failed\");",
    "    \x7d",
    "",
    "    function totalSupply() public view returns (uint256) \x7b",
    "        return _tokenIds.current();",
    "    \x7d",
    "\x7d"]

/-- The examples in order. -/
def all : List Example :=
  [simple, vulnerable, lending, collection]

/-- The example of a name, the simple one for any other name. -/
def get (name : String) : Example :=
  (all.find? fun e => e.name == name).getD simple

end Example

end SolidityAudit
